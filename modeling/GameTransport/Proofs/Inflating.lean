import GameTransport.Proofs.Written
import GameTransport.Zlib.Inflate

/-! # What a larger buffer does to inflating

A decoder with a larger buffer does the same, until the smaller buffer is full and one octet more is
to be written (`Inflate.Scales`).  Every step of the decoder is like that, and so is the whole.

So it does not depend on the buffer whether a complete stream stands at the front of some octets, what
it holds and what comes after it (`Starts`).  A decoder that stops with room to spare would stop at
the same place with any buffer (`inflate_of_spare`).
-/

namespace GameTransport.Zlib

namespace Inflate

/-! ### Octets written -/

/-- The octets of the output. -/
def State.written (s : State) : Bytes := s.output.data.toList

theorem toList_loop (bytes : ByteArray) (index : Nat) (before : Bytes) :
    ByteArray.toList.loop bytes index before =
      before.reverse ++ bytes.data.toList.drop index := by
  induction left : bytes.size - index generalizing index before with
  | zero =>
    have past : bytes.data.toList.length ≤ index := by
      rw [Array.length_toList, ByteArray.size_data]
      omega
    rw [ByteArray.toList.loop, if_neg (by omega), List.drop_eq_nil_of_le past, List.append_nil]
  | succ left ih =>
    have inside : index < bytes.data.toList.length := by
      rw [Array.length_toList, ByteArray.size_data]
      omega
    have next : bytes.get! index = bytes.data.toList[index] := by
      rw [ByteArray.get!, Array.getElem_toList, getElem!_pos]
    rw [ByteArray.toList.loop, if_pos (by omega), ih _ _ (by omega),
      List.drop_eq_getElem_cons inside, List.reverse_cons, List.append_assoc, next]
    rfl

theorem State.written_eq (s : State) : s.output.toList = s.written := by
  rw [ByteArray.toList, toList_loop]
  rfl

theorem State.length_written (s : State) : s.written.length = s.output.size := by
  rw [written, Array.length_toList, ByteArray.size_data]

/-! ### Steps -/

variable {α β : Type}

/-- What comes of one step from `s` with two buffers. -/
inductive Scaled (capacity larger : Nat) (s : State) :
    EStateM.Result Stop State α → EStateM.Result Stop State α → Prop where
  | same {result} (grown : s.written <+: (stateOf result).written)
    (fits : (stateOf result).written.length ≤ capacity) : Scaled capacity larger s result result
  /-- The smaller buffer is full, and more is written into the larger one. -/
  | full {t result} (grown : s.written <+: t.written) (filled : t.written.length = capacity)
    (beyond : t.written <+: (stateOf result).written)
    (more : capacity < (stateOf result).written.length)
    (fits : (stateOf result).written.length ≤ larger) :
    Scaled capacity larger s (.error .exhausted t) result

/-- A step does the same with a larger buffer, until the smaller one is full. -/
def Scales (step : Nat → Step α) : Prop :=
  ∀ (capacity larger : Nat) (s : State), capacity ≤ larger → s.written.length ≤ capacity →
    Scaled capacity larger s (step capacity s) (step larger s)

variable {capacity larger : Nat} {s t : State} {x y : EStateM.Result Stop State α}

/-- What a decoder writes stands after what it wrote before. -/
theorem Scaled.grown_right (scaled : Scaled capacity larger s x y) :
    s.written <+: (stateOf y).written := by
  cases scaled with
  | same grown fits => exact grown
  | full grown filled beyond more fits => exact grown.trans beyond

theorem Scaled.fits_right (scaled : Scaled capacity larger s x y) (le : capacity ≤ larger) :
    (stateOf y).written.length ≤ larger := by
  cases scaled with
  | same grown fits => omega
  | full grown filled beyond more fits => exact fits

theorem Scaled.after (scaled : Scaled capacity larger t x y) (grown : s.written <+: t.written) :
    Scaled capacity larger s x y := by
  cases scaled with
  | same later fits => exact .same (grown.trans later) fits
  | full later filled beyond more fits => exact .full (grown.trans later) filled beyond more fits

namespace Scales

/-- A step that leaves the output alone. -/
theorem of_keeps {step : Step α} (keeps : ∀ s, (stateOf (step s)).output = s.output) :
    Scales fun _ => step := by
  intro capacity larger s le fits
  have same : (stateOf (step s)).written = s.written := congrArg (·.data.toList) (keeps s)
  refine .same ⟨[], ?_⟩ ?_
  · rw [List.append_nil, same]
  · rw [same]
    exact fits

theorem pure (value : α) : Scales fun _ => (Pure.pure value : Step α) := of_keeps fun _ => rfl

theorem throw (stop : Stop) : Scales fun _ => (MonadExcept.throw stop : Step α) :=
  of_keeps fun _ => rfl

/-- One step and then another. -/
theorem bind {first : Nat → Step α} {second : α → Nat → Step β} (scales : Scales first)
    (goOn : ∀ value, Scales (second value)) :
    Scales fun capacity => first capacity >>= fun value => second value capacity := by
  intro capacity larger s le fits
  have begun := scales capacity larger s le fits
  change Scaled capacity larger s (EStateM.bind (first capacity) (second · capacity) s)
    (EStateM.bind (first larger) (second · larger) s)
  rw [EStateM.bind, EStateM.bind]
  generalize first capacity s = x at begun
  generalize first larger s = y at begun
  cases begun with
  | same grown fits =>
    rcases x with ⟨value, t⟩ | ⟨stop, t⟩
    · exact (goOn value capacity larger t le fits).after grown
    · exact .same grown fits
  | full grown filled beyond more fits =>
    rcases y with ⟨value, t⟩ | ⟨stop, t⟩
    · -- The larger buffer is written to again; what is in it already stays there.
      have again := goOn value larger larger t (Nat.le_refl _) fits
      exact .full grown filled (beyond.trans again.grown_right)
        (Nat.lt_of_lt_of_le more again.grown_right.length_le) (again.fits_right (Nat.le_refl _))
    · exact .full grown filled beyond more fits

theorem ite {p : Prop} [Decidable p] {yes no : Nat → Step α} (scalesYes : Scales yes)
    (scalesNo : Scales no) : Scales fun capacity => if p then yes capacity else no capacity := by
  split
  · exact scalesYes
  · exact scalesNo

theorem map {step : Nat → Step α} (scales : Scales step) (f : α → β) :
    Scales fun capacity => f <$> step capacity :=
  scales.bind fun value => pure (f value)

/-- A step for each element of a list. -/
theorem mapM {γ : Type} {step : γ → Nat → Step α} (scales : ∀ element, Scales (step element))
    (list : List γ) : Scales fun capacity => list.mapM (step · capacity) := by
  induction list with
  | nil => exact pure []
  | cons element rest ih =>
    simp only [List.mapM_cons]
    exact (scales element).bind fun value => ih.bind fun values => pure (value :: values)

end Scales

/-! ### Reading -/

section Reading

variable (input : ByteArray)

theorem scales_bit : Scales fun _ => bit input := by
  apply Scales.of_keeps
  intro s
  rw [bit]
  split <;> rfl

theorem scales_bits (count : Nat) : Scales fun _ => bits input count := by
  induction count with
  | zero => exact .pure 0
  | succ count ih =>
    exact (scales_bit input).bind fun low => ih.bind fun high => .pure (low + 2 * high)

theorem scales_octets (count : Nat) : Scales fun _ => octets input count :=
  scales_bits input (8 * count)

theorem scales_align : Scales fun _ => align := .of_keeps fun _ => rfl

theorem scales_get : Scales fun _ => (get : Step State) := .of_keeps fun _ => rfl

/-- A word is taken bit by bit. -/
theorem scales_symbolFrom (symbols : Array Nat) (levels : List Level) (word first index : Nat) :
    Scales fun _ => symbolFrom input symbols levels word first index := by
  induction levels generalizing word first index with
  | nil => exact .throw .corrupt
  | cons level longer ih =>
    refine (scales_bit input).bind fun low => .ite ?_ (.ite (ih _ _ _) (.throw .corrupt))
    split
    · exact .pure _
    · exact .throw .corrupt

theorem scales_symbol (code : Code) : Scales fun _ => symbol input code :=
  scales_symbolFrom input code.symbols code.levels 0 0 0

theorem scales_inRange (ranges : Array Range) (index : Nat) :
    Scales fun _ => inRange input ranges index := by
  simp only [inRange]
  split
  · exact (scales_bits input _).bind fun extra => .pure _
  · exact .throw .corrupt

theorem scales_lengthsFrom (code : Code) (wanted fuel : Nat) (done : List Nat) :
    Scales fun _ => lengthsFrom input code wanted fuel done := by
  induction fuel generalizing done with
  | zero => exact .throw .corrupt
  | succ fuel ih =>
    refine .ite (.pure _) (.ite (.throw .corrupt) ((scales_symbol input code).bind fun s => ?_))
    refine .ite (ih _) (.ite ?_ ?_)
    · split
      · exact (scales_bits input 2).bind fun extra => ih _
      · exact .throw .corrupt
    · -- Three bits or seven, and then the same.
      have zeros (count : Nat) : Scales fun _ =>
          lengthsFrom input code wanted fuel (List.replicate count 0 ++ done) := ih _
      exact .ite (((scales_bits input 3).map (3 + ·)).bind zeros)
        (((scales_bits input 7).map (11 + ·)).bind zeros)

theorem scales_codes : Scales fun _ => codes input := by
  refine (scales_bits input 5).bind fun literals => (scales_bits input 5).bind fun distances => ?_
  refine (scales_bits input 4).bind fun lengths => .ite (.throw .corrupt) ?_
  refine (Scales.mapM (fun s => (scales_bits input 3).bind fun length => .pure (s, length)) _).bind
    fun given => .ite (.throw .corrupt) ?_
  exact (scales_lengthsFrom input _ _ _ _).bind fun all => .ite (.pure _) (.throw .corrupt)

theorem scales_header : Scales fun _ => header input :=
  (scales_octets input 1).bind fun _ => (scales_octets input 1).bind fun _ =>
    .ite (.throw .corrupt) (.pure ())

end Reading

/-! ### Writing -/

theorem scales_put (b : UInt8) : Scales fun capacity => put capacity b := by
  intro capacity larger s le fits
  rw [s.length_written] at fits
  have pushed : (State.written { s with output := s.output.push b }) = s.written ++ [b] := by
    simp [State.written]
  by_cases room : s.output.size < capacity
  · simp only [put, if_pos room, if_pos (Nat.lt_of_lt_of_le room le)]
    refine .same ?_ ?_
    · change s.written <+: State.written { s with output := s.output.push b }
      rw [pushed]
      exact List.prefix_append _ _
    · change (State.written { s with output := s.output.push b }).length ≤ capacity
      rw [pushed, List.length_append, s.length_written, List.length_singleton]
      omega
  · simp only [put, if_neg room]
    have filled : s.written.length = capacity := by
      rw [s.length_written]
      omega
    split
    · refine .full List.prefix_rfl filled ?_ ?_ ?_
      · change s.written <+: State.written { s with output := s.output.push b }
        rw [pushed]
        exact List.prefix_append _ _
      · change capacity < (State.written { s with output := s.output.push b }).length
        rw [pushed, List.length_append, List.length_singleton]
        omega
      · change (State.written { s with output := s.output.push b }).length ≤ larger
        rw [pushed, List.length_append, s.length_written, List.length_singleton]
        omega
    · exact .same List.prefix_rfl (by change s.written.length ≤ capacity; omega)

theorem scales_repeatBack (distance count : Nat) :
    Scales fun capacity => repeatBack capacity distance count := by
  induction count with
  | zero => exact .pure ()
  | succ count ih =>
    refine scales_get.bind fun s => ?_
    split
    · exact (scales_put _).bind fun _ => ih
    · exact .throw .corrupt

section Blocks

variable (input : ByteArray)

theorem scales_copy (count : Nat) : Scales fun capacity => copy input capacity count := by
  induction count with
  | zero => exact .pure ()
  | succ count ih =>
    exact (scales_octets input 1).bind fun b => (scales_put _).bind fun _ => ih

theorem scales_stored : Scales fun capacity => stored input capacity :=
  scales_align.bind fun _ => (scales_octets input 2).bind fun length =>
    (scales_octets input 2).bind fun _ =>
      .ite (.throw .corrupt) (scales_copy input length)

theorem scales_matchesOf (literals distances : Code) (fuel : Nat) :
    Scales fun capacity => matchesOf input capacity literals distances fuel := by
  induction fuel with
  | zero => exact .throw .exhausted
  | succ fuel ih =>
    refine (scales_symbol input literals).bind fun s => .ite ?_ (.ite (.pure ()) ?_)
    · exact (scales_put _).bind fun _ => ih
    · refine (scales_inRange input _ _).bind fun length => ?_
      refine (scales_symbol input distances).bind fun symbol => ?_
      refine (scales_inRange input _ symbol).bind fun distance => scales_get.bind fun t => ?_
      exact .ite (.throw .corrupt) ((scales_repeatBack distance length).bind fun _ => ih)

theorem scales_blocks (fuel : Nat) : Scales fun capacity => blocks input capacity fuel := by
  induction fuel with
  | zero => exact .throw .exhausted
  | succ fuel ih =>
    have rest (last : Nat) : Scales fun capacity =>
        if last = 1 then (Pure.pure () : Step Unit) else blocks input capacity fuel :=
      .ite (.pure ()) ih
    refine (scales_bit input).bind fun last => (scales_bits input 2).bind fun kind => ?_
    rcases kind with _ | _ | _ | kind
    · exact (scales_stored input).bind fun _ => rest last
    · exact (scales_matchesOf input _ _ _).bind fun _ => rest last
    · exact (scales_codes input).bind fun both =>
        (scales_matchesOf input _ _ _).bind fun _ => rest last
    · exact .throw .corrupt

/-- **The whole decoder does the same with a larger buffer**, until the smaller one is full. -/
theorem scales_stream : Scales fun capacity => stream input capacity := by
  refine (scales_header input).bind fun _ => (scales_blocks input _).bind fun _ => ?_
  refine scales_align.bind fun _ => ?_
  refine (Scales.mapM (fun _ => scales_octets input 1) _).bind fun stored => ?_
  exact scales_get.bind fun t => .ite (.throw .corrupt) (.pure ())

end Blocks

end Inflate

/-! ### Streams -/

/-- What was written, where the data did not break the format. -/
def Inflated.output? : Inflated → Option Bytes
  | .corrupt => none
  | .stopped output => some output
  | .finished output _ => some output

variable {body content output : Bytes} {capacity larger unread : Nat}

/-- The whole decoder with two buffers. -/
theorem inflate_scales (le : capacity ≤ larger) (body : Bytes) :
    (inflate capacity body = inflate larger body ∧
        ∀ output ∈ (inflate larger body).output?, output.length ≤ capacity) ∨
      ∃ output, inflate capacity body = .stopped output ∧ output.length = capacity ∧
        ∀ other ∈ (inflate larger body).output?,
          output <+: other ∧ capacity < other.length ∧ other.length ≤ larger := by
  have scaled := Inflate.scales_stream body.toByteArray capacity larger ⟨0, ByteArray.empty⟩ le
    (Nat.zero_le capacity)
  rw [inflate, inflate]
  dsimp only at scaled ⊢
  generalize Inflate.stream body.toByteArray capacity ⟨0, ByteArray.empty⟩ = x at scaled
  generalize Inflate.stream body.toByteArray larger ⟨0, ByteArray.empty⟩ = y at scaled
  cases scaled with
  | same grown fits =>
    refine .inl ⟨rfl, ?_⟩
    rintro output written
    rcases x with ⟨⟨⟩, s⟩ | ⟨⟨⟩, s⟩ <;> cases written <;> rw [s.written_eq] <;> exact fits
  | full grown filled beyond more fits =>
    refine .inr ⟨_, rfl, ?_, ?_⟩
    · rw [Inflate.State.written_eq]
      exact filled
    · rintro output written
      rw [Inflate.State.written_eq]
      rcases y with ⟨⟨⟩, s⟩ | ⟨⟨⟩, s⟩ <;> cases written <;> rw [s.written_eq] <;>
        exact ⟨beyond, more, fits⟩

/-- **Nothing is written past the end of the buffer.** -/
theorem length_le_of_inflate (written : output ∈ (inflate capacity body).output?) :
    output.length ≤ capacity := by
  rcases inflate_scales (Nat.le_refl capacity) body with ⟨-, fits⟩ | ⟨_, -, -, longer⟩
  · exact fits output written
  · exact (longer output written).2.2

/-- A decoder that stops with room to spare has run out of input, so it stops there with any buffer
that has room to spare. -/
theorem inflate_of_spare {other : Nat} (stops : inflate capacity body = .stopped output)
    (spare : output.length < capacity) (room : output.length < other) :
    inflate other body = .stopped output := by
  rcases Nat.le_total capacity other with le | le
  · rcases inflate_scales le body with ⟨same, -⟩ | ⟨full, stops', filled, -⟩
    · rw [← same, stops]
    · rw [stops] at stops'
      cases stops'
      omega
  · rcases inflate_scales le body with ⟨same, -⟩ | ⟨full, -, filled, beyond⟩
    · rw [same, stops]
    · obtain ⟨-, more, -⟩ := beyond output (by rw [stops]; rfl)
      omega

/-- A complete stream that holds `content` stands at the front of `body`, and `unread` octets after
it. -/
def Starts (body content : Bytes) (unread : Nat) : Prop :=
  ∃ capacity, inflate capacity body = .finished content unread

namespace Starts

/-- Any buffer does that the content fits into. -/
theorem inflate_eq (starts : Starts body content unread) (room : content.length ≤ capacity) :
    inflate capacity body = .finished content unread := by
  obtain ⟨other, finished⟩ := starts
  have written : content ∈ (inflate other body).output? := by rw [finished]; rfl
  rcases Nat.le_total capacity other with le | le
  · rcases inflate_scales le body with ⟨same, -⟩ | ⟨full, -, -, beyond⟩
    · rw [same, finished]
    · obtain ⟨-, more, -⟩ := beyond content written
      omega
  · rcases inflate_scales le body with ⟨same, -⟩ | ⟨full, stops, -, -⟩
    · rw [← same, finished]
    · rw [finished] at stops
      cases stops

/-- A buffer that is too small is filled. -/
theorem inflate_eq_stopped (starts : Starts body content unread) (small : capacity < content.length) :
    inflate capacity body = .stopped (content.take capacity) := by
  have finished := starts.inflate_eq (Nat.le_refl content.length)
  have written : content ∈ (inflate content.length body).output? := by rw [finished]; rfl
  rcases inflate_scales (Nat.le_of_lt small) body with ⟨same, fits⟩ | ⟨full, stops, filled, beyond⟩
  · have := fits content written
    omega
  · obtain ⟨front, -, -⟩ := beyond content written
    rw [stops, List.prefix_iff_eq_take.mp front, filled]

theorem unique {other : Bytes} {left : Nat} (starts : Starts body content unread)
    (again : Starts body other left) : content = other ∧ unread = left := by
  have same := (starts.inflate_eq (Nat.le_max_left _ other.length)).symm.trans
    (again.inflate_eq (Nat.le_max_right content.length _))
  cases same
  exact ⟨rfl, rfl⟩

theorem unread_le (starts : Starts body content unread) : unread ≤ body.length := by
  obtain ⟨capacity, finished⟩ := starts
  rw [inflate] at finished
  split at finished <;> cases finished
  rw [List.size_toByteArray]
  exact Nat.sub_le _ _

end Starts

theorem not_starts_of_corrupt (corrupt : inflate capacity body = .corrupt) :
    ¬ Starts body content unread := by
  intro starts
  rcases Nat.lt_or_ge capacity content.length with small | room
  · rw [starts.inflate_eq_stopped small] at corrupt
    cases corrupt
  · rw [starts.inflate_eq room] at corrupt
    cases corrupt

end GameTransport.Zlib
