import GameTransport.ServerStatus
import Mathlib.Data.List.TakeDrop

/-! # What is written as JSON is read back

A piece of text spells a value if it is cut into words and read as the value wherever a value may stand
(`Json.Spells`).  A string spells itself whatever characters are in it, and so do an integer and an
object of pieces that spell values.  The document of the server list is made of such pieces, so a status
that is written is read back (`ServerStatus.ofJson_toJson`), whatever texts and numbers it holds.
-/

namespace GameTransport.Json

namespace Token

/-! ## Strings -/

/-- How a control character is written, and what that stands for. -/
theorem pad_of_lt : ∀ n < 32,
    List.replicate (4 - (Nat.toDigits 16 n).length) '0' ++ Nat.toDigits 16 n =
        ['0', '0', Nat.digitChar (n / 16), Nat.digitChar (n % 16)] ∧
      Hexadecimal.number? ['0', '0', Nat.digitChar (n / 16), Nat.digitChar (n % 16)] = some n := by
  decide

/-- A character is escaped by a letter, or by its number, or stands for itself. -/
theorem escape_cases (c : Char) :
    (∃ letter, escape c = ['\\', letter] ∧ letter ≠ 'u' ∧ escaped? letter = some c) ∨
      (∃ a b, escape c = ['\\', 'u', '0', '0', a, b] ∧
        Hexadecimal.number? ['0', '0', a, b] = some c.toNat) ∨
        escape c = [c] ∧ c ≠ '\"' ∧ c ≠ '\\' ∧ ¬ c.toNat < 0x20 := by
  unfold escape
  split
  case h_8 quote slash _ _ _ _ _ =>
    by_cases control : c.toNat < 0x20
    · obtain ⟨spelled, stands⟩ := pad_of_lt c.toNat control
      refine .inr (.inl ⟨_, _, ?_, stands⟩)
      rw [if_pos control, Hexadecimal.pad, String.toList_ofList, spelled]
    · exact .inr (.inr ⟨if_neg control, quote, slash, control⟩)
  all_goals exact .inl ⟨_, rfl, by decide, rfl⟩

theorem stringBody_flatMap_escape (cs : List Char) (done : List Nat) (rest : List Char) :
    stringBody done (cs.flatMap escape ++ '\"' :: rest) =
      some (done.reverse ++ cs.map Char.toNat, rest) := by
  induction cs generalizing done with
  | nil => simp [stringBody]
  | cons c cs ih =>
    have next : stringBody (c.toNat :: done) (cs.flatMap escape ++ '\"' :: rest) =
        some (done.reverse ++ (c :: cs).map Char.toNat, rest) := by
      rw [ih, List.reverse_cons, List.append_assoc]
      rfl
    rw [List.flatMap_cons, List.append_assoc, ← next]
    generalize cs.flatMap escape ++ '\"' :: rest = more
    rcases escape_cases c with ⟨letter, spelled, other, stands⟩ | ⟨a, b, spelled, stands⟩ |
      ⟨spelled, quote, slash, printed⟩ <;> rw [spelled]
    · simp [stringBody, other, stands]
    · simp [stringBody, stands]
    · simp [stringBody, slash, printed]

/-- A character is no half of another. -/
theorem joinHalves_map_toNat (cs done : List Char) :
    joinHalves done (cs.map Char.toNat) = some (done.reverse ++ cs) := by
  induction cs generalizing done with
  | nil => simp [joinHalves]
  | cons c cs ih =>
    have whole : c.toNat < 0xD800 ∨ 0xE000 ≤ c.toNat := by
      rcases c.valid with low | ⟨high, -⟩
      · exact .inl low
      · exact .inr high
    rw [List.map_cons]
    unfold joinHalves
    rw [if_pos (by simpa using whole), Char.ofNat_toNat, ih]
    simp

/-! ## Numbers -/

/-- No number goes on here. -/
def Free (rest : List Char) : Prop :=
  ∀ c more, rest = c :: more → c.isDigit = false ∧ c ≠ '.' ∧ (c == 'e' || c == 'E') = false

theorem free_nil : Free [] := nofun

theorem digits_append {whole rest : List Char} (all : ∀ c ∈ whole, c.isDigit) (free : Free rest) :
    digits (whole ++ rest) = (whole, rest) := by
  have none : rest.takeWhile Char.isDigit = [] := by
    cases rest with
    | nil => rfl
    | cons c more => rw [List.takeWhile_cons, (free c more rfl).1]; rfl
  have same : rest.dropWhile Char.isDigit = rest := by
    cases rest with
    | nil => rfl
    | cons c more => rw [List.dropWhile_cons, (free c more rfl).1]; rfl
  rw [digits, List.span_eq_takeWhile_dropWhile, List.takeWhile_append_of_pos all,
    List.dropWhile_append_of_pos all, none, same, List.append_nil]

theorem isDigit_of_mem_decimal {n : Nat} {c : Char} (among : c ∈ Nat.toDigits 10 n) :
    c.isDigit = true := Nat.isDigit_of_mem_toDigits (by decide) (by decide) among

/-- Only zero begins with a zero. -/
theorem head?_toDigits {n : Nat} (large : 10 ≤ n) : (Nat.toDigits 10 n).head? ≠ some '0' := by
  induction n using Nat.strongRecOn with
  | ind n ih =>
    have leading : 0 < n / 10 := Nat.div_pos large (by decide)
    have some : (Nat.toDigits 10 (n / 10)).head?.isSome :=
      List.isSome_head?.mpr Nat.toDigits_ne_nil
    rw [Nat.toDigits_of_base_le (by decide) large, List.head?_append, Option.or_of_isSome some]
    by_cases small : n / 10 < 10
    · rw [Nat.toDigits_of_lt_base small, List.head?_cons]
      intro zero
      have := Nat.digitChar_eq_zero.mp (Option.some.inj zero)
      omega
    · exact ih (n / 10) (by omega) (Nat.le_of_not_lt small)

theorem magnitude?_toDigits (n : Nat) {rest : List Char} (free : Free rest) :
    magnitude? (Nat.toDigits 10 n ++ rest) = some (some n, rest) := by
  have cut : digits (Nat.toDigits 10 n ++ rest) = (Nat.toDigits 10 n, rest) :=
    digits_append (fun _ => isDigit_of_mem_decimal) free
  have start : (Nat.toDigits 10 n).length = 1 ∨ ¬ (Nat.toDigits 10 n).head? = some '0' := by
    by_cases small : n < 10
    · rw [Nat.toDigits_of_lt_base small]
      exact .inl rfl
    · exact .inr (head?_toDigits (Nat.le_of_not_lt small))
  have proper : (decide (Nat.toDigits 10 n ≠ []) && (decide ((Nat.toDigits 10 n).length = 1) ||
      decide ((Nat.toDigits 10 n).head? ≠ some '0'))) = true := by
    simpa [Nat.toDigits_ne_nil] using start
  have whole : fraction? rest = some (false, rest) := by
    cases rest with
    | nil => rfl
    | cons c more =>
      have point := (free c more rfl).2.1
      simp [fraction?, point]
  have unscaled : exponent? rest = some (false, rest) := by
    cases rest with
    | nil => rfl
    | cons c more =>
      unfold exponent?
      dsimp only
      rw [(free c more rfl).2.2]
      rfl
  have value : (Nat.toDigits 10 n).foldl (fun n c => n * 10 + (c.toNat - '0'.toNat)) 0 = n := by
    have value := @Nat.ofDigitChars_ten_toDigits n
    rw [Nat.ofDigitChars_eq_foldl] at value
    simpa only [Nat.mul_comm] using value
  unfold magnitude?
  rw [cut]
  dsimp only
  rw [guard, if_pos proper]
  simp only [whole, unscaled, value, Option.pure_def, Option.bind_eq_bind, Option.bind_some,
    Bool.or_self, Bool.false_eq_true, if_false]

/-- An integer is written with digits, after a minus sign if it is negative. -/
theorem toList_toString_int (n : Int) : (toString n).toList =
    if 0 ≤ n then Nat.toDigits 10 n.toNat else '-' :: Nat.toDigits 10 (-n).toNat := by
  rw [Int.toString_eq_repr, Int.repr_eq_if]
  split
  · exact Nat.toList_repr
  · rw [String.toList_append, Nat.toList_repr]
    rfl

theorem number?_toString (n : Int) {rest : List Char} (free : Free rest) :
    number? ((toString n).toList ++ rest) = some (some n, rest) := by
  rw [toList_toString_int]
  split
  · rename_i natural
    unfold number?
    split
    · rename_i more minus
      have digit : '-' ∈ Nat.toDigits 10 n.toNat := by
        cases whole : Nat.toDigits 10 n.toNat with
        | nil => exact absurd whole Nat.toDigits_ne_nil
        | cons c cs =>
          rw [whole] at minus
          cases minus
          exact List.mem_cons_self
      cases isDigit_of_mem_decimal digit
    · rw [magnitude?_toDigits n.toNat free]
      simp [Int.toNat_of_nonneg natural]
  · rename_i negative
    have least : (-n).toNat ≠ 0 := by omega
    have value : -((-n).toNat : Int) = n := by omega
    rw [List.cons_append, number?, magnitude?_toDigits (-n).toNat free]
    simp only [Option.map_some, Option.bind_some, if_neg least, value]

/-- What begins like a number is a number. -/
theorem next?_of_numeral {c : Char} (numeral : c.isDigit ∨ c = '-') (rest : List Char) :
    isBlank c = false ∧
      next? c rest = (number? (c :: rest)).map fun (value, rest) => (number value, rest) := by
  rcases numeral with digit | rfl
  · constructor
    · refine Bool.eq_false_iff.mpr fun blank => ?_
      simp only [isBlank, Bool.or_eq_true, beq_iff_eq] at blank
      rcases blank with ((rfl | rfl) | rfl) | rfl <;> cases digit
    · unfold next?
      split <;> first | rfl | cases digit
  · exact ⟨rfl, rfl⟩

/-! ## Words -/

/-- The words are cut off the front. -/
def Cuts (text : List Char) (tokens : List Token) (rest : List Char) : Prop :=
  ∀ fuel done, (text ++ rest).length ≤ fuel → ∃ left, rest.length ≤ left ∧
    scanFrom fuel done (text ++ rest) = scanFrom left (tokens.reverse ++ done) rest

namespace Cuts

theorem append {text more rest : List Char} {tokens others : List Token}
    (first : Cuts text tokens (more ++ rest)) (next : Cuts more others rest) :
    Cuts (text ++ more) (tokens ++ others) rest := by
  intro fuel done enough
  rw [List.append_assoc] at enough ⊢
  obtain ⟨left, enough, first⟩ := first fuel done enough
  obtain ⟨left, enough, next⟩ := next left _ enough
  refine ⟨left, enough, ?_⟩
  rw [first, next, List.reverse_append, List.append_assoc]

/-- One word. -/
theorem word {c : Char} {more rest : List Char} {token : Token} (ink : isBlank c = false)
    (next : next? c (more ++ rest) = some (token, rest)) : Cuts (c :: more) [token] rest := by
  intro fuel done enough
  cases fuel with
  | zero => cases enough
  | succ fuel =>
    refine ⟨fuel, ?_, ?_⟩
    · simp only [List.cons_append, List.length_cons, List.length_append] at enough
      omega
    · rw [List.cons_append, scanFrom, ink, next]
      rfl

theorem openObject (rest : List Char) : Cuts ['\x7b'] [.openObject] rest := word rfl rfl

theorem closeObject (rest : List Char) : Cuts ['\x7d'] [.closeObject] rest := word rfl rfl

theorem colon (rest : List Char) : Cuts [':'] [.colon] rest := word rfl rfl

theorem comma (rest : List Char) : Cuts [','] [.comma] rest := word rfl rfl

theorem quote (text : String) (rest : List Char) :
    Cuts (Json.quote text).toList [.string (some text)] rest := by
  have body : stringBody [] (text.toList.flatMap escape ++ '\"' :: rest) =
      some (text.toList.map Char.toNat, rest) := stringBody_flatMap_escape text.toList [] rest
  rw [Json.quote, String.toList_ofList]
  refine word rfl ?_
  rw [List.append_eq, List.append_assoc]
  change (stringBody [] (text.toList.flatMap escape ++ '\"' :: rest)).map _ = _
  rw [body, Option.map_some]
  dsimp only
  rw [joinHalves_map_toNat]
  simp

theorem integer (n : Int) {rest : List Char} (free : Free rest) :
    Cuts (toString n).toList [.number (some n)] rest := by
  have read := number?_toString n free
  have numeral : ∃ c more, (toString n).toList = c :: more ∧ (c.isDigit ∨ c = '-') := by
    rw [toList_toString_int]
    split
    · cases whole : Nat.toDigits 10 n.toNat with
      | nil => exact absurd whole Nat.toDigits_ne_nil
      | cons c cs =>
        refine ⟨c, cs, rfl, .inl ?_⟩
        exact isDigit_of_mem_decimal (whole ▸ List.mem_cons_self)
    · exact ⟨_, _, rfl, .inr rfl⟩
  obtain ⟨c, more, spelled, numeral⟩ := numeral
  obtain ⟨ink, next⟩ := next?_of_numeral numeral (more ++ rest)
  rw [spelled] at read ⊢
  refine word ink ?_
  rw [next, ← List.cons_append, read]
  rfl

end Cuts

end Token

/-! ## Values -/

open Token (Cuts Free)

/-- Goes on after a complete value. -/
def completed (value : Json) (levels : List Level) (rest : List Token) : Option Json :=
  match levels with
  | [] => readFrom (some value) [] .separator rest
  | level :: outer => readFrom none (level.add value :: outer) .separator rest

/-- A piece of text is cut into words that are read as a value. -/
structure Spells (text : String) (tokens : List Token) (value : Json) : Prop where
  cuts : ∀ rest, Free rest → Cuts text.toList tokens rest
  reads : ∀ levels rest, readFrom none levels .value (tokens ++ rest) = completed value levels rest

namespace Spells

/-- What is spelled is read. -/
theorem read? {text : String} {tokens : List Token} {value : Json}
    (spells : Spells text tokens value) : Json.read? text = some value := by
  obtain ⟨left, -, cut⟩ := spells.cuts [] Token.free_nil text.toList.length [] (by simp)
  rw [List.append_nil] at cut
  have scanned : Token.scan? text = some tokens := by
    rw [Token.scan?, cut]
    cases left <;> simp [Token.scanFrom]
  have read := spells.reads [] []
  rw [List.append_nil] at read
  rw [Json.read?, scanned]
  exact read

theorem quote (text : String) :
    Spells (Json.quote text) [.string (some text)] (.string (some text)) where
  cuts rest _ := Cuts.quote text rest
  reads levels rest := by cases levels <;> rfl

theorem integer (n : Int) : Spells (toString n) [.number (some n)] (.number (some n)) where
  cuts _ free := Cuts.integer n free
  reads levels rest := by cases levels <;> rfl

end Spells

/-- A member of an object: its name and the piece that spells its value. -/
structure Member where
  name : String
  text : String
  tokens : List Token
  value : Json

namespace Member

/-- The words of a member. -/
def words (member : Member) : List Token := .string (some member.name) :: .colon :: member.tokens

def Sound (member : Member) : Prop := Spells member.text member.tokens member.value

/-- The characters of a member. -/
def chars (member : Member) : List Char :=
  (Json.quote member.name ++ ":" ++ member.text).toList

variable {member : Member}

theorem cuts (sound : member.Sound) {rest : List Char} (free : Free rest) :
    Cuts member.chars member.words rest := by
  have value : Cuts member.text.toList member.tokens rest := sound.cuts rest free
  have colon : Cuts (':' :: member.text.toList) (.colon :: member.tokens) rest :=
    (Cuts.colon (member.text.toList ++ rest)).append value
  have all := (Cuts.quote member.name (':' :: member.text.toList ++ rest)).append colon
  rw [chars, String.toList_append, String.toList_append, List.append_assoc]
  exact all

/-- A member is read into the object that is open. -/
theorem reads (sound : member.Sound) (before : List (Option String × Json)) (last : Option String)
    (outer : List Level) {expected : Expected} (expects : expected = .name ∨ expected = .nameOrEnd)
    (rest : List Token) :
    readFrom none (.object before last :: outer) expected (member.words ++ rest) =
      readFrom none (.object ((some member.name, member.value) :: before) (some member.name) :: outer)
        .separator rest := by
  have value := sound.reads (.object before (some member.name) :: outer) rest
  rcases expects with rfl | rfl <;> exact value

/-! ### The members after the first -/

/-- The characters of more members, up to the end of the object. -/
def moreChars (members : List Member) : List Char :=
  members.flatMap (fun member => ',' :: member.chars) ++ ['\x7d']

def moreWords (members : List Member) : List Token :=
  members.flatMap (fun member => .comma :: member.words) ++ [.closeObject]

theorem moreChars_cons (member : Member) (members : List Member) :
    moreChars (member :: members) = [','] ++ (member.chars ++ moreChars members) := by
  simp [moreChars]

theorem moreWords_cons (member : Member) (members : List Member) :
    moreWords (member :: members) = [.comma] ++ (member.words ++ moreWords members) := by
  simp [moreWords]

/-- A number before more members is over. -/
theorem free_moreChars (members : List Member) (rest : List Char) :
    Free (moreChars members ++ rest) := by
  intro c more begins
  cases members with
  | nil => cases begins; exact ⟨rfl, by decide, rfl⟩
  | cons member members => cases begins; exact ⟨rfl, by decide, rfl⟩

theorem cuts_more {members : List Member} (sound : ∀ member ∈ members, member.Sound)
    (rest : List Char) : Cuts (moreChars members) (moreWords members) rest := by
  induction members with
  | nil => exact Cuts.closeObject rest
  | cons member members ih =>
    rw [moreChars_cons, moreWords_cons]
    have first := cuts (sound member List.mem_cons_self) (free_moreChars members rest)
    have others := ih fun member among => sound member (List.mem_cons_of_mem _ among)
    exact (Cuts.comma _).append (first.append others)

theorem reads_more {members : List Member} (sound : ∀ member ∈ members, member.Sound)
    (before : List (Option String × Json)) (last : Option String) (outer : List Level)
    (rest : List Token) :
    readFrom none (.object before last :: outer) .separator (moreWords members ++ rest) =
      completed (.object (before.reverse ++
        members.map fun member => (some member.name, member.value))) outer rest := by
  induction members generalizing before last with
  | nil =>
    rw [List.map_nil, List.append_nil]
    cases outer <;> rfl
  | cons member members ih =>
    have first := reads (sound member List.mem_cons_self) before last outer (.inl rfl)
      (moreWords members ++ rest)
    have others := ih (fun member among => sound member (List.mem_cons_of_mem _ among))
      ((some member.name, member.value) :: before) (some member.name)
    rw [moreWords_cons, List.append_assoc, List.append_assoc]
    refine (first.trans others).trans ?_
    rw [List.reverse_cons, List.append_assoc]
    rfl

end Member

/-- The words of an object. -/
def objectWords : List Member → List Token
  | [] => [.openObject, .closeObject]
  | first :: others => .openObject :: (first.words ++ Member.moreWords others)

/-- Members stand between commas. -/
theorem intercalate_chars (first : Member) (others : List Member) :
    ([','] : List Char).intercalate ((first :: others).map Member.chars) ++ ['\x7d'] =
      first.chars ++ Member.moreChars others := by
  induction others generalizing first with
  | nil =>
    rw [List.map_singleton, List.intercalate_singleton]
    rfl
  | cons next others ih =>
    have rest := ih next
    rw [List.map_cons] at rest ⊢
    rw [List.map_cons, List.intercalate_cons_cons, Member.moreChars_cons, ← rest]
    simp

theorem toList_writeObject_cons (first : Member) (others : List Member) :
    (writeObject ((first :: others).map fun member => (member.name, member.text))).toList =
      ['\x7b'] ++ (first.chars ++ Member.moreChars others) := by
  rw [writeObject, String.toList_append, String.toList_append, String.toList_intercalate,
    List.map_map, List.map_map]
  change ['\x7b'] ++ List.intercalate [','] ((first :: others).map Member.chars) ++ ['\x7d'] = _
  rw [List.append_assoc, ← intercalate_chars]

/-- **An object of pieces that spell values is read member by member.** -/
theorem Spells.object {members : List Member} (sound : ∀ member ∈ members, member.Sound) :
    Spells (writeObject (members.map fun member => (member.name, member.text)))
      (objectWords members)
      (.object (members.map fun member => (some member.name, member.value))) := by
  cases members with
  | nil =>
    refine ⟨fun rest _ => ?_, fun levels rest => by cases levels <;> rfl⟩
    exact (Cuts.openObject _).append (Cuts.closeObject rest)
  | cons first others =>
    have head := sound first List.mem_cons_self
    have tail : ∀ member ∈ others, member.Sound :=
      fun member among => sound member (List.mem_cons_of_mem _ among)
    refine ⟨fun rest _ => ?_, fun levels rest => ?_⟩
    · rw [toList_writeObject_cons]
      have body := (Member.cuts head (Member.free_moreChars others rest)).append
        (Member.cuts_more tail rest)
      exact (Cuts.openObject _).append body
    · have opens := Member.reads head [] none levels (.inr rfl) (Member.moreWords others ++ rest)
      have closes := Member.reads_more tail [(some first.name, first.value)] (some first.name) levels
        rest
      rw [objectWords, List.cons_append, List.append_assoc]
      exact opens.trans closes

end GameTransport.Json

namespace GameTransport.Json.Member

/-! ## Members of any depth -/

def ofText (name text : String) : Member :=
  ⟨name, Json.quote text, [.string (some text)], .string (some text)⟩

def ofInt (name : String) (n : Int) : Member :=
  ⟨name, toString n, [.number (some n)], .number (some n)⟩

def ofMembers (name : String) (members : List Member) : Member where
  name := name
  text := writeObject (members.map fun member => (member.name, member.text))
  tokens := objectWords members
  value := .object (members.map fun member => (some member.name, member.value))

theorem sound_ofText (name text : String) : (ofText name text).Sound := Spells.quote text

theorem sound_ofInt (name : String) (n : Int) : (ofInt name n).Sound := Spells.integer n

theorem sound_ofMembers (name : String) {members : List Member}
    (sound : ∀ member ∈ members, member.Sound) : (ofMembers name members).Sound :=
  Spells.object sound

end GameTransport.Json.Member

namespace GameTransport.ServerStatus

open Json (Member)

/-! ## The document of the server list -/

/-- The members of the document. -/
def members (status : ServerStatus) : List Member :=
  [.ofMembers "version"
      [.ofText "name" status.versionName, .ofInt "protocol" status.protocol.toInt],
    .ofMembers "players"
      [.ofInt "max" status.maxPlayers.toNat, .ofInt "online" status.online.toNat],
    .ofMembers "description" [.ofText "text" status.motd]] ++
    (status.favicon.map (Member.ofText "favicon")).toList

theorem toJson_eq (status : ServerStatus) : status.toJson =
    Json.writeObject (status.members.map fun member => (member.name, member.text)) := by
  rw [members, List.map_append, toJson]
  cases status.favicon <;> rfl

theorem sound_members (status : ServerStatus) : ∀ member ∈ status.members, member.Sound := by
  intro member among
  rcases List.mem_append.mp among with among | among
  · simp only [List.mem_cons, List.not_mem_nil, or_false] at among
    rcases among with rfl | rfl | rfl
    · refine Member.sound_ofMembers _ fun member among => ?_
      simp only [List.mem_cons, List.not_mem_nil, or_false] at among
      rcases among with rfl | rfl
      · exact Member.sound_ofText _ _
      · exact Member.sound_ofInt _ _
    · refine Member.sound_ofMembers _ fun member among => ?_
      simp only [List.mem_cons, List.not_mem_nil, or_false] at among
      rcases among with rfl | rfl <;> exact Member.sound_ofInt _ _
    · refine Member.sound_ofMembers _ fun member among => ?_
      rw [List.mem_singleton.mp among]
      exact Member.sound_ofText _ _
  · obtain ⟨icon, -, rfl⟩ := Option.map_eq_some_iff.mp (Option.mem_toList.mp among)
    exact Member.sound_ofText _ _

theorem i32?_toInt (n : Int32) : i32? (.number (some n.toInt)) = some n := by
  have least : Int32.minValue.toInt ≤ n.toInt := Int32.minValue_le_toInt n
  have most : n.toInt ≤ Int32.maxValue.toInt := Int32.toInt_le n
  rw [i32?, integer?, decide_eq_true least, decide_eq_true most, Bool.true_and, if_pos rfl,
    Option.map_some, Int32.ofInt_toInt]

theorem u64?_toNat (n : UInt64) : u64? (.number (some n.toNat)) = some n := by
  have least : (0 : Int) ≤ n.toNat := Int.natCast_nonneg _
  have most : (n.toNat : Int) ≤ UInt64.size - 1 := by
    have small := n.toNat_lt
    simp only [UInt64.size]
    omega
  rw [u64?, integer?, decide_eq_true least, decide_eq_true most, Bool.true_and, if_pos rfl,
    Option.map_some, Int.toNat_natCast, UInt64.ofNat_toNat]

/-- The value that the document is describes the status. -/
theorem ofValue?_members (status : ServerStatus) :
    ofValue? (.object (status.members.map fun member => (some member.name, member.value))) =
      some status := by
  obtain ⟨versionName, protocol, maxPlayers, online, motd, favicon⟩ := status
  cases favicon <;>
    simp [members, ofValue?, members?, pair?, text?, description?, favicon?, i32?_toInt,
      u64?_toNat, Member.ofMembers, Member.ofText, Member.ofInt]

theorem read?_toJson (status : ServerStatus) : Json.read? status.toJson =
    some (.object (status.members.map fun member => (some member.name, member.value))) := by
  rw [toJson_eq]
  exact (Json.Spells.object status.sound_members).read?

/-- **A status that is written is read back**, whatever is in it. -/
theorem ofJson_toJson (status : ServerStatus) : ofJson status.toJson = .ok status := by
  rw [ofJson, read?_toJson, Option.bind_eq_bind, Option.bind_some, ofValue?_members]

theorem name_members (status : ServerStatus) : status.members.map Member.name =
    ["version", "players", "description"] ++ if status.favicon.isSome then ["favicon"] else [] := by
  rw [members, List.map_append]
  cases status.favicon <;> rfl

/-- **A status survives its document.**  The document has a member for the icon just if there is one,
both as it is written and as it is read. -/
theorem survives_document (status : ServerStatus) :
    let names := ["version", "players", "description"] ++
      if status.favicon.isSome then ["favicon"] else []
    ofJson status.toJson = .ok status ∧
      (∃ written : List (String × String), status.toJson = Json.writeObject written ∧
        written.map Prod.fst = names) ∧
      ∃ read : List (Option String × Json), Json.read? status.toJson = some (.object read) ∧
        read.map Prod.fst = names.map some := by
  intro names
  have named : status.members.map Member.name = names := status.name_members
  refine ⟨ofJson_toJson status, ⟨_, toJson_eq status, ?_⟩, _, read?_toJson status, ?_⟩
  · rw [List.map_map, ← named]
    rfl
  · rw [List.map_map, ← named, List.map_map]
    rfl

end GameTransport.ServerStatus
