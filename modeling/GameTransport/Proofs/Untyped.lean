import GameTransport.Handlers.Untyped
import GameTransport.Proofs.Endings
import GameTransport.Proofs.Readers
import Mathlib.Data.List.Forall2

/-! # It makes no difference whether a table shows the kinds

Entries are alike if they do the same with every body.  A handler that asks for its own kind is given
packets of that kind by the factory beside it, so an entry that does not show its kind is like the one
that does (`Entry.alike_untyped`).  Tables that were filled with like entries in the same order dispatch
every payload alike (`Registry.Builder.Alike.build`), so a conversation over the one is a conversation
over the other.
-/

namespace GameTransport

variable {σ : Type}

/-! ### Entries -/

/-- The entries do the same with every body. -/
structure Entry.Alike (entry other : Entry σ) : Prop where
  id : entry.id = other.id
  name : entry.name = other.name
  run : ∀ body context, entry.run body context = other.run body context

variable {ι : Type} [Packet.Family ι] [DecidableEq ι]

theorem Packet.Any.as?_mk (kind : ι) (value : Packet.Family.Value kind) :
    (Packet.Any.mk kind value).as? kind = some value := dif_pos rfl

/-- What a factory makes is given back to whoever asks for its kind, so a handler for that kind
does not complain. -/
theorem Handler.ofAny_of_factory {kind : ι} {body rest : Bytes} {packet : Packet.Any ι}
    (made : (PacketType.of kind).factory body = .ok packet rest) :
    ∃ value, Packet.read body = .ok value rest ∧ packet.as? kind = some value ∧
      ∀ handler : Handler σ (Packet.Family.Value kind), ofAny kind handler packet = handler value := by
  rcases read : (Packet.read : Reader (Packet.Family.Value kind)) body with
    ⟨value, left⟩ | ⟨fault, left⟩
  · have built : (PacketType.of kind).factory body = .ok ⟨kind, value⟩ left := Reader.map_ok read
    rw [built] at made
    cases made
    refine ⟨value, rfl, Packet.Any.as?_mk kind value, ?_⟩
    intro handler
    rw [ofAny, Packet.Any.as?_mk]
  · have failed : (PacketType.of kind).factory body = .error fault left := Reader.map_error read
    rw [failed] at made
    cases made

/-- **A factory makes packets of the kind that the handler beside it asks for.** -/
theorem Entry.alike_untyped (kind : ι) (handler? : Option (Handler σ (Packet.Family.Value kind))) :
    (Entry.untyped (.of kind) (handler?.map (.ofAny kind))).Alike
      ⟨Packet.Family.Value kind, inferInstance, handler?⟩ where
  id := rfl
  name := rfl
  run body context := by
    have built : (Entry.untyped (.of kind) (handler?.map (.ofAny kind))).packet.read body =
        (PacketType.of kind).factory body := rfl
    rw [run, run, built]
    rcases made : (PacketType.of kind).factory body with ⟨packet, rest⟩ | ⟨fault, rest⟩
    · obtain ⟨value, read, -, own⟩ := Handler.ofAny_of_factory (σ := σ) made
      rw [read]
      cases rest with
      | nil =>
        cases handler? with
        | none => rfl
        | some handler =>
          dsimp only [untyped, Option.map_some]
          rw [own]
          rfl
      | cons b rest => rfl
    · rcases read : (Packet.read : Reader (Packet.Family.Value kind)) body with
        ⟨value, left⟩ | ⟨fault', left⟩
      · cases made.symm.trans (Reader.map_ok read)
      · cases made.symm.trans (Reader.map_error read)
        rfl

/-! ### Tables -/

namespace Registry

/-- The builders hold like entries in the same order, and the same hooks. -/
structure Builder.Alike (builder other : Builder σ) : Prop where
  name : builder.name = other.name
  entries : List.Forall₂ Entry.Alike builder.entries other.entries
  attach : builder.attach = other.attach
  detach : builder.detach = other.detach
  caught : builder.caught = other.caught

/-- The registries do the same with every payload, and have the same hooks. -/
structure Alike (registry other : Registry σ) : Prop where
  dispatch : registry.dispatch = other.dispatch
  attach : registry.attach = other.attach
  detach : registry.detach = other.detach
  caught : registry.caught = other.caught

namespace Builder

variable {builder other : Builder σ} {entry entry' : Entry σ}

theorem alike_empty (name : String) : Alike { name : Builder σ } { name } :=
  ⟨rfl, .nil, rfl, rfl, rfl⟩

theorem Alike.insert (alike : builder.Alike other) (same : entry.Alike entry') :
    (builder.insert entry).Alike (other.insert entry') where
  name := alike.name
  entries := by
    refine .cons same (List.rel_filter ?_ alike.entries)
    intro first first' alike
    dsimp only
    rw [alike.id, same.id]
  attach := alike.attach
  detach := alike.detach
  caught := alike.caught

/-- The entries at one place of two tables. -/
theorem rel_foldl {entries others : List (Entry σ)} (alike : List.Forall₂ Entry.Alike entries others)
    {table table' : Array (Option (Entry σ))} (size : table.size = table'.size)
    (held : ∀ i : Nat, Option.Rel Entry.Alike (table[i]?).join (table'[i]?).join) (i : Nat) :
    Option.Rel Entry.Alike
      ((entries.foldl (fun table entry => table.setIfInBounds entry.id.toNat (some entry))
        table)[i]?).join
      ((others.foldl (fun table entry => table.setIfInBounds entry.id.toNat (some entry))
        table')[i]?).join := by
  induction alike generalizing table table' with
  | nil => exact held i
  | cons same _ ih =>
    -- Like entries have one number, so they are put in one place.
    refine ih (by simp only [Array.size_setIfInBounds, size]) fun place => ?_
    rw [Array.getElem?_setIfInBounds, Array.getElem?_setIfInBounds, same.id, size]
    split
    · split
      · exact .some same
      · exact .none
    · exact held place

theorem tableSize_eq {entries others : List (Entry σ)}
    (alike : List.Forall₂ Entry.Alike entries others) (size : Nat) :
    entries.foldl (fun size entry => max size (entry.id.toNat + 1)) size =
      others.foldl (fun size entry => max size (entry.id.toNat + 1)) size := by
  induction alike generalizing size with
  | nil => rfl
  | cons same _ ih => rw [List.foldl_cons, List.foldl_cons, same.id, ih]

/-- What stands at a number in tables of like entries. -/
theorem Alike.rel_entry (alike : builder.Alike other) (id : UInt32) :
    Option.Rel Entry.Alike (Registry.entry? builder.build id) (Registry.entry? other.build id) := by
  refine rel_foldl alike.entries ?_ (fun place => ?_) id.toNat
  · rw [Array.size_replicate, Array.size_replicate, tableSize, tableSize, tableSize_eq alike.entries]
  · rw [tableSize, tableSize, tableSize_eq alike.entries]
    rw [Array.getElem?_replicate]
    split <;> exact .none

/-- **Tables of like entries dispatch alike.** -/
theorem Alike.build (alike : builder.Alike other) : builder.build.Alike other.build where
  dispatch := by
    funext payload context
    unfold Registry.dispatch
    rcases Varint.readU32 payload with ⟨id, body⟩ | ⟨fault, rest⟩
    · have rel := alike.rel_entry id
      dsimp only
      generalize Registry.entry? builder.build id = entry at rel
      generalize Registry.entry? other.build id = entry' at rel
      cases rel with
      | none =>
        change EStateM.Result.error (Fault.unknownPacket builder.name id) context = _
        rw [alike.name]
        rfl
      | some same =>
        dsimp only
        rw [same.run, same.name]
    · rfl
  attach := alike.attach
  detach := alike.detach
  caught := alike.caught

end Builder

end Registry

/-- The tables of every state do the same with every payload, and have the same hooks. -/
def StateRegistries.Alike (tables others : StateRegistries σ) : Prop :=
  ∀ state, (tables.active state).Alike (others.active state)

/-- **The default tables are alike**, whether they show the kinds or not. -/
theorem Handlers.alike_untyped {α : Type} :
    (untyped : StateRegistries (Session α)).Alike registries := by
  intro state
  have empty (name : String) := Registry.Builder.alike_empty (σ := Session α) name
  cases state with
  | handshaking =>
    exact ((empty _).insert (Entry.alike_untyped Packet.Kind.handshake (some handshake))).build
  | status =>
    exact (((empty _).insert (Entry.alike_untyped Packet.Kind.statusRequest (some statusRequest))).insert
      (Entry.alike_untyped Packet.Kind.pingRequest (some pingRequest))).build
  | login =>
    exact (((empty _).insert (Entry.alike_untyped Packet.Kind.loginStart (some loginStart))).insert
      (Entry.alike_untyped Packet.Kind.encryptionResponse (some encryptionResponse))).build
  | play =>
    have filled := (empty ConnectionState.play.name).insert
      (Entry.alike_untyped Packet.Kind.keepAlive (some keepAlive))
    exact Registry.Builder.Alike.build ⟨filled.name, filled.entries, rfl, rfl, filled.caught⟩

/-! ### Conversations -/

variable {α : Type} {z : Zlib.Library} {tables others : StateRegistries (Session α)}

namespace Conversation

theorem dispatch_of_alike (alike : tables.Alike others) : dispatch tables = dispatch others := by
  funext payload c
  rw [dispatch, dispatch, active, active, (alike c.state).dispatch]

theorem perform_of_alike (alike : tables.Alike others) : perform z tables = perform z others := by
  funext action c
  cases action with
  | transition target =>
    rw [perform, perform, move, move, StateRegistries.transition, StateRegistries.transition,
      (alike c.state).detach, (alike target).attach]
  | send packet => rfl
  | enableCompression threshold level => rfl
  | enableEncryption secret => rfl
  | disconnect => rfl

theorem enter_of_alike (alike : tables.Alike others) (c : Conversation α) :
    c.enter tables = c.enter others := by
  rw [enter, enter, active, active, (alike _).attach]

end Conversation

namespace Invariant

open Conversation (dispatch_of_alike perform_of_alike)

variable {I : Invariant α} {P : Fault → Prop}

/-- What is kept over tables is kept over tables that are like them. -/
theorem Kept.of_alike (alike : tables.Alike others) (kept : I.Kept z others) :
    I.Kept z tables where
  quiet := kept.quiet
  quiet_past := kept.quiet_past
  past := kept.past
  heard := by rw [dispatch_of_alike alike]; exact kept.heard
  refused := by rw [dispatch_of_alike alike]; exact kept.refused
  taken := kept.taken
  carried := by rw [perform_of_alike alike]; exact kept.carried
  ended := by rw [perform_of_alike alike]; exact kept.ended
  failed := by rw [perform_of_alike alike]; exact kept.failed
  settled := kept.settled

theorem Spares.of_alike (alike : tables.Alike others) (spares : I.Spares z others P) :
    I.Spares z tables P where
  refused := by rw [dispatch_of_alike alike]; exact spares.refused
  failed := by rw [perform_of_alike alike]; exact spares.failed
  undecoded := spares.undecoded
  unencoded := spares.unencoded
  silent := spares.silent
  cut := spares.cut

end Invariant

end GameTransport
