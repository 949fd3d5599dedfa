import GameTransport.Packet.Kind
import GameTransport.Proofs.Untyped
import Mathlib.Data.Finset.Dedup
import Mathlib.Data.Finset.Card

/-! # A table answers as a map would

A builder is called any number of times, with kinds of any family: a kind is added, with a handler or
without, or entries are dropped by their number or by what they are.  What it ought to hold is a map
from numbers to registrations (`Call.note`).  An addition puts both the kind and the handler at its
number in place of what stood there, and a removal leaves nothing at the numbers that it is about.

Every call takes a builder that holds a map to one that holds the map after that call (`Holds.perform`).
The table is as long as the largest number asks for, so it answers for every number as the list of the
builder does (`entry?_build`), and hence as the map.
-/

namespace GameTransport

variable {ι σ : Type} [Packet.Family ι]

/-- A kind and what is done with its packets. -/
structure Registration (ι σ : Type) [Packet.Family ι] where
  kind : ι
  handler : Option (Handler σ (Packet.Family.Value kind))

namespace Registration

/-- The number of the kind. -/
def id (registration : Registration ι σ) : UInt32 :=
  Packet.id (Packet.Family.Value registration.kind)

/-- As it stands in a table that does not show the kinds. -/
def entry [DecidableEq ι] (registration : Registration ι σ) : Entry σ :=
  .untyped (.of registration.kind) (registration.handler.map (.ofAny registration.kind))

/-- As it would stand in a table that shows them, where no handler has anything to ask. -/
def shown (registration : Registration ι σ) : Entry σ :=
  ⟨Packet.Family.Value registration.kind, inferInstance, registration.handler⟩

end Registration

namespace Registry

/-! ### Calls -/

namespace Builder

/-- A call of a builder.  A predicate may look at all of an entry. -/
inductive Call (ι σ : Type) [Packet.Family ι] : Type 1 where
  | add (kind : ι)
  | addWith (kind : ι) (handler : Handler σ (Packet.Family.Value kind))
  | remove (id : UInt32)
  | discard (p : Entry σ → Bool)
  | retain (p : Entry σ → Bool)

/-- What a call makes of a builder. -/
def perform [DecidableEq ι] (builder : Builder σ) : Call ι σ → Builder σ
  | .add kind => builder.addUntyped kind
  | .addWith kind handler => builder.addUntypedWith kind handler
  | .remove id => builder.remove id
  | .discard p => builder.discard p
  | .retain p => builder.retain p

def performAll [DecidableEq ι] (builder : Builder σ) (calls : List (Call ι σ)) : Builder σ :=
  calls.foldl perform builder

/-- What is registered at each number. -/
abbrev Holding (ι σ : Type) [Packet.Family ι] := UInt32 → Option (Registration ι σ)

/-- What a call makes of a map. -/
def Call.note [DecidableEq ι] (map : Holding ι σ) : Call ι σ → Holding ι σ
  | .add kind => Function.update map (Packet.id (Packet.Family.Value kind)) (some ⟨kind, none⟩)
  | .addWith kind handler =>
    Function.update map (Packet.id (Packet.Family.Value kind)) (some ⟨kind, some handler⟩)
  | .remove id => Function.update map id none
  | .discard p => fun id => (map id).filter fun registration => !p registration.entry
  | .retain p => fun id => (map id).filter fun registration => p registration.entry

/-- The map after calls on a new builder. -/
def Call.noteAll [DecidableEq ι] (calls : List (Call ι σ)) : Holding ι σ :=
  calls.foldl Call.note fun _ => none

/-! ### Entries in a list -/

variable {entries : List (Entry σ)}

/-- The entry with a number, where there is one for each number. -/
theorem find?_filter_of_nodup (distinct : (entries.map Entry.id).Nodup) (p : Entry σ → Bool)
    (id : UInt32) :
    (entries.filter p).find? (·.id == id) = (entries.find? (·.id == id)).filter p := by
  induction entries with
  | nil => rfl
  | cons first rest ih =>
    obtain ⟨fresh, distinct⟩ := List.nodup_cons.mp distinct
    by_cases here : first.id = id
    · -- No other entry has the number, so nothing is found if this one is dropped.
      have alone : (rest.filter p).find? (·.id == id) = none := by
        rw [List.find?_eq_none]
        intro entry member same
        apply fresh
        rw [here, ← eq_of_beq same]
        exact List.mem_map_of_mem (List.mem_of_mem_filter member)
      by_cases kept : p first = true
      · simp [Option.filter, kept, here]
      · simp [Option.filter, kept, here, alone]
    · have skipped : (first.id == id) = false := beq_false_of_ne here
      rw [List.find?_cons, skipped, ← ih distinct, List.filter_cons]
      split
      · rw [List.find?_cons, skipped]
      · rfl

theorem id_of_find? {entry : Entry σ} {id : UInt32}
    (found : entries.find? (·.id == id) = some entry) : entry.id = id :=
  eq_of_beq (List.find?_some (p := fun entry : Entry σ => entry.id == id) found)

/-! ### The table -/

/-- A list of entries is put into a table, each at its place. -/
theorem join_getElem?_foldl (distinct : (entries.map Entry.id).Nodup)
    {table : Array (Option (Entry σ))} (fits : ∀ entry ∈ entries, entry.id.toNat < table.size)
    (id : UInt32) :
    ((entries.foldl (fun table entry => table.setIfInBounds entry.id.toNat (some entry))
      table)[id.toNat]?).join = (entries.find? (·.id == id)).or (table[id.toNat]?).join := by
  induction entries generalizing table with
  | nil => rfl
  | cons first rest ih =>
    obtain ⟨fresh, distinct⟩ := List.nodup_cons.mp distinct
    rw [List.foldl_cons, ih distinct, Array.getElem?_setIfInBounds]
    · by_cases here : first.id = id
      · have alone : rest.find? (·.id == id) = none := by
          rw [List.find?_eq_none]
          intro entry member same
          apply fresh
          rw [here, ← eq_of_beq same]
          exact List.mem_map_of_mem member
        have room := fits first List.mem_cons_self
        rw [here] at room
        simp [here, alone, room]
      · have elsewhere : first.id.toNat ≠ id.toNat := fun same => here (UInt32.toNat_inj.mp same)
        have skipped : (first.id == id) = false := beq_false_of_ne here
        rw [if_neg elsewhere, List.find?_cons, skipped]
    · intro entry member
      rw [Array.size_setIfInBounds]
      exact fits entry (List.mem_cons_of_mem _ member)

theorem le_tableSize (size : Nat) :
    size ≤ entries.foldl (fun size entry => max size (entry.id.toNat + 1)) size ∧
      ∀ entry ∈ entries, entry.id.toNat <
        entries.foldl (fun size entry => max size (entry.id.toNat + 1)) size := by
  induction entries generalizing size with
  | nil => exact ⟨Nat.le_refl size, fun entry member => absurd member List.not_mem_nil⟩
  | cons first rest ih =>
    obtain ⟨grown, fits⟩ := ih (max size (first.id.toNat + 1))
    rw [List.foldl_cons]
    refine ⟨by omega, ?_⟩
    intro entry member
    rcases List.mem_cons.mp member with rfl | member
    · omega
    · exact fits entry member

/-- **The table answers for every number**, also past its end, as the list does. -/
theorem entry?_build {builder : Builder σ} (distinct : (builder.entries.map Entry.id).Nodup)
    (id : UInt32) : builder.build.entry? id = builder.entries.find? (·.id == id) := by
  have fits : ∀ entry ∈ builder.entries,
      entry.id.toNat < (Array.replicate builder.tableSize (none : Option (Entry σ))).size := by
    intro entry member
    rw [Array.size_replicate]
    exact (le_tableSize 0).2 entry member
  refine (join_getElem?_foldl distinct fits id).trans ?_
  rw [Array.getElem?_replicate]
  split <;> exact Option.or_none

/-! ### What one call keeps -/

/-- The entries of a builder are those of a map, one for each number. -/
structure Holds [DecidableEq ι] (builder : Builder σ) (map : Holding ι σ) : Prop where
  distinct : (builder.entries.map Entry.id).Nodup
  found : ∀ id, builder.entries.find? (·.id == id) = (map id).map Registration.entry

variable [DecidableEq ι] {builder : Builder σ} {map : Holding ι σ}

theorem holds_empty (name : String) : Holds { name } (fun _ => none : Holding ι σ) where
  distinct := List.nodup_nil
  found _ := rfl

theorem Holds.id_eq (holds : Holds builder map) {id : UInt32} {registration : Registration ι σ}
    (at_ : map id = some registration) : registration.id = id := by
  have found := holds.found id
  rw [at_] at found
  exact id_of_find? found

/-- A registration takes the place of what stands at its number. -/
theorem Holds.insert (holds : Holds builder map) (registration : Registration ι σ) :
    Holds (builder.insert registration.entry)
      (Function.update map registration.id (some registration)) where
  distinct := by
    refine List.nodup_cons.mpr ⟨?_, (List.filter_sublist.map Entry.id).nodup holds.distinct⟩
    intro member
    obtain ⟨entry, kept, same⟩ := List.mem_map.mp member
    have other := (List.mem_filter.mp kept).2
    exact absurd same (by simpa using other)
  found id := by
    have number : registration.entry.id = registration.id := rfl
    rw [Builder.insert]
    by_cases here : registration.id = id
    · rw [← here, Function.update_self, List.find?_cons, number, beq_self_eq_true]
      rfl
    · have skipped : (registration.entry.id == id) = false := beq_false_of_ne here
      rw [Function.update_of_ne (Ne.symm here), List.find?_cons, skipped,
        find?_filter_of_nodup holds.distinct, holds.found]
      rcases at_ : map id with _ | standing
      · rfl
      · have distinct : standing.entry.id ≠ registration.entry.id := by
          intro same
          exact here (same.symm.trans (holds.id_eq at_))
        simp [Option.filter, distinct]

/-- What is dropped is dropped from the map. -/
theorem Holds.retain (holds : Holds builder map) (p : Entry σ → Bool) :
    Holds (builder.retain p) fun id => (map id).filter fun registration => p registration.entry where
  distinct := (List.filter_sublist.map Entry.id).nodup holds.distinct
  found id := by
    rw [Builder.retain, find?_filter_of_nodup holds.distinct, holds.found]
    rcases map id with _ | registration
    · rfl
    · by_cases kept : p registration.entry = true <;> simp [Option.filter, kept]

theorem Holds.remove (holds : Holds builder map) (id : UInt32) :
    Holds (builder.remove id) (Function.update map id none) := by
  have rest := holds.retain fun entry => !(entry.id == id)
  refine ⟨rest.distinct, fun other => (rest.found other).trans ?_⟩
  rcases at_ : map other with _ | registration
  · by_cases here : other = id
    · rw [here, Function.update_self]
      rfl
    · rw [Function.update_of_ne here, at_]
      rfl
  · have number : registration.entry.id = other := holds.id_eq at_
    by_cases here : other = id
    · rw [← here, Function.update_self]
      simp [Option.filter, number]
    · rw [Function.update_of_ne here, at_]
      simp [Option.filter, number, here]

/-- **A call takes a builder that holds a map to one that holds the map after the call.** -/
theorem Holds.perform (holds : Holds builder map) (call : Call ι σ) :
    Holds (builder.perform call) (call.note map) := by
  cases call with
  | add kind => exact holds.insert ⟨kind, none⟩
  | addWith kind handler => exact holds.insert ⟨kind, some handler⟩
  | remove id => exact holds.remove id
  | discard p => exact holds.retain fun entry => !p entry
  | retain p => exact holds.retain p

theorem Holds.performAll (holds : Holds builder map) (calls : List (Call ι σ)) :
    Holds (builder.performAll calls) (calls.foldl Call.note map) := by
  induction calls generalizing builder map with
  | nil => exact holds
  | cons call rest ih => exact ih (holds.perform call)

/-! ### What is built -/

/-- The numbers at which something is registered. -/
theorem Holds.exists_keys (holds : Holds builder map) :
    ∃ keys : Finset UInt32, (∀ id, id ∈ keys ↔ (map id).isSome) ∧ builder.build.size = keys.card := by
  refine ⟨(builder.entries.map Entry.id).toFinset, fun id => ?_, ?_⟩
  · have known : (map id).isSome = (builder.entries.find? (·.id == id)).isSome := by
      rw [holds.found, Option.isSome_map]
    rw [known, List.find?_isSome, List.mem_toFinset, List.mem_map]
    simp only [beq_iff_eq]
  · rw [List.toFinset_card_of_nodup holds.distinct, List.length_map]
    rfl

theorem Holds.isEmpty_iff (holds : Holds builder map) :
    builder.build.isEmpty ↔ ∀ id, map id = none := by
  obtain ⟨keys, known, size⟩ := holds.exists_keys
  rw [Registry.isEmpty, size, beq_iff_eq, Finset.card_eq_zero, Finset.eq_empty_iff_forall_notMem]
  refine forall_congr' fun id => ?_
  rw [known, Bool.not_eq_true, Option.isSome_eq_false_iff, Option.isNone_iff_eq_none]

/-- What an entry is whose factory and handler are of one kind: the handler gets the packets back
that the factory makes, and the entry does what one does that has nothing to ask. -/
structure Matched (registration : Registration ι σ) : Prop where
  own : ∀ body packet rest, (PacketType.of registration.kind).factory body = .ok packet rest →
    ∃ value, Packet.read body = .ok value rest ∧ packet.as? registration.kind = some value
  run : ∀ body context, registration.entry.run body context = registration.shown.run body context

theorem matched (registration : Registration ι σ) : Matched registration where
  own body packet rest made := by
    obtain ⟨value, read, given, -⟩ := Handler.ofAny_of_factory (σ := σ) made
    exact ⟨value, read, given⟩
  run := (Entry.alike_untyped registration.kind registration.handler).run

/-- **What is built answers for every number as the map of its calls does.** -/
theorem build_answers_as_map (name : String) (calls : List (Call ι σ)) :
    let registry := (performAll { name } calls).build
    let map := Call.noteAll calls
    (∀ id, registry.entry? id = (map id).map Registration.entry ∧
      registry.contains id = (map id).isSome ∧
      registry.hasHandler id = (map id).any (·.handler.isSome)) ∧
    (∃ keys : Finset UInt32, (∀ id, id ∈ keys ↔ (map id).isSome) ∧ registry.size = keys.card) ∧
    (registry.isEmpty ↔ ∀ id, map id = none) ∧
    ∀ id registration, map id = some registration →
      registration.entry.id = id ∧ Matched registration := by
  intro registry map
  have holds : Holds (performAll { name } calls) map := (holds_empty name).performAll calls
  have answers (id : UInt32) : registry.entry? id = (map id).map Registration.entry :=
    (entry?_build holds.distinct id).trans (holds.found id)
  refine ⟨fun id => ⟨answers id, ?_, ?_⟩, holds.exists_keys, holds.isEmpty_iff, ?_⟩
  · rw [Registry.contains, answers, Option.isSome_map]
  · rw [Registry.hasHandler, answers]
    rcases map id with _ | ⟨kind, _ | handler⟩ <;> rfl
  · intro id registration at_
    exact ⟨holds.id_eq at_, matched registration⟩

/-- A second kind comes to the number of the first, without a handler, and the largest number is given
back. -/
def overwritten : List (Call Packet.Kind Unit) :=
  [.addWith .handshake fun _ => pure (), .add .loginStart, .addWith .pingRequest fun _ => pure (),
    .addWith .setCompression fun _ => pure (), .remove 3, .retain fun entry => entry.id != 7]

theorem build_answers_as_map_overwritten :
    let registry := (performAll { name := "LOGIN" } overwritten).build
    let held : Registration Packet.Kind Unit := ⟨.loginStart, none⟩
    Call.noteAll overwritten 0 = some held ∧ registry.entry? 0 = some held.entry ∧
      registry.hasHandler 0 = false ∧ registry.hasHandler 1 = true ∧ registry.contains 3 = false ∧
      registry.contains 4294967295 = false ∧ held.entry.id = 0 ∧ Matched held := by
  intro registry held
  obtain ⟨answers, -, -, known⟩ := build_answers_as_map "LOGIN" overwritten
  have at_ : Call.noteAll overwritten 0 = some held := rfl
  exact ⟨at_, (answers 0).1, (answers 0).2.2, (answers 1).2.2, (answers 3).2.1,
    (answers 4294967295).2.1, known 0 held at_⟩

end Builder

end Registry

end GameTransport
