import GameTransport.Proofs.Settings
import Mathlib.Data.List.DropRight
import Mathlib.Data.List.Induction

/-! # Comments change nothing

A `#` stands alone if a blank is before it, and a blank or the end of the line behind it
(`StandsAlone`).  A line that does not begin with a `#` is cut at the first one that stands alone, and
nowhere else (`stripComment_of_first`, `stripComment_of_none`).

The end of a line counts as a blank.  So if something is put behind a line, and a blank comes first,
each `#` of the line stands alone just if it did before (`standsAlone_append_iff`).  Hence a line
with a comment behind it is cut where the line was, or else at the comment, and says what it said
(`Line.ofChars_append`).  For a whole text this is said of the place where a line ends, whatever
stands before and behind it (`parse_insert_comment`).
-/

namespace GameTransport.Options

variable {line back : List Char} {i : Nat}

/-! ### Where a line is cut -/

/-- The `#` at this place has a blank before it, and a blank or the end of the line behind it. -/
structure StandsAlone (text : List Char) (i : Nat) : Prop where
  mark : text[i]? = some '#'
  before : ∃ c, 0 < i ∧ text[i - 1]? = some c ∧ Blank.isBlank c = true
  after : ∀ c, text[i + 1]? = some c → Blank.isBlank c = true

theorem StandsAlone.lt (alone : StandsAlone line i) : i < line.length := by
  obtain ⟨inside, -⟩ := List.getElem?_eq_some_iff.mp alone.mark
  exact inside

/-- The scan looks at the character before a `#` and at those behind it. -/
theorem startsComment_iff (front rest : List Char) :
    startsComment front.getLast? rest = true ↔
      StandsAlone (front ++ '#' :: rest) front.length := by
  have here : (front ++ '#' :: rest)[front.length]? = some '#' := by simp
  have behind : (front ++ '#' :: rest)[front.length + 1]? = rest.head? := by
    rw [List.getElem?_append_right (Nat.le_succ _), Nat.succ_sub (Nat.le_refl _), Nat.sub_self,
      List.getElem?_cons_succ, List.head?_eq_getElem?]
  rw [startsComment, Bool.and_eq_true, Option.any_eq_true, Option.all_eq_true]
  constructor
  · rintro ⟨⟨c, last, blank⟩, clear⟩
    rw [List.getLast?_eq_getElem?] at last
    obtain ⟨inside, -⟩ := List.getElem?_eq_some_iff.mp last
    refine ⟨here, ⟨c, by omega, ?_, blank⟩, fun c next => clear c (behind ▸ next)⟩
    rw [List.getElem?_append_left inside]
    exact last
  · rintro ⟨-, ⟨c, some, last, blank⟩, clear⟩
    rw [List.getElem?_append_left (by omega), ← List.getLast?_eq_getElem?] at last
    exact ⟨⟨c, last, blank⟩, fun c next => clear c (behind.trans next)⟩

/-- No `#` of the line stands alone before this place. -/
def NoneBefore (line : List Char) (i : Nat) : Prop := ∀ j < i, ¬ StandsAlone line j

/-- The scan finds the first `#` that stands alone, if there is one.  By induction on what is left of
the line, `front` being what has been scanned. -/
theorem commentFrom_cases (front rest : List Char)
    (none : NoneBefore (front ++ rest) front.length) :
    (∃ i, commentFrom front.getLast? front.length rest = some i ∧ StandsAlone (front ++ rest) i ∧
      NoneBefore (front ++ rest) i) ∨
    commentFrom front.getLast? front.length rest = .none ∧ ∀ i, ¬ StandsAlone (front ++ rest) i := by
  induction rest generalizing front with
  | nil =>
    refine .inr ⟨rfl, fun i alone => ?_⟩
    have inside := alone.lt
    rw [List.append_nil] at inside
    exact none i inside alone
  | cons c rest ih =>
    rw [commentFrom]
    by_cases cut : c = '#' ∧ startsComment front.getLast? rest = true
    · obtain ⟨rfl, starts⟩ := cut
      refine .inl ⟨front.length, ?_, (startsComment_iff front rest).mp starts, none⟩
      rw [starts]
      rfl
    · have goesOn : (c == '#' && startsComment front.getLast? rest) = false := by
        simpa using cut
      have next : NoneBefore (front ++ [c] ++ rest) (front ++ [c]).length := by
        rw [List.append_cons] at none
        intro j before alone
        rw [List.length_append, List.length_singleton] at before
        by_cases earlier : j < front.length
        · exact none j earlier alone
        · obtain rfl : j = front.length := by omega
          rw [List.append_assoc, List.singleton_append] at alone
          obtain rfl : c = '#' := by simpa using alone.mark
          exact cut ⟨rfl, (startsComment_iff front rest).mpr alone⟩
      have later := ih (front ++ [c]) next
      rw [goesOn, if_neg Bool.false_ne_true, List.append_cons]
      simpa using later

/-- In a whole line. -/
theorem commentFrom_none_cases (line : List Char) :
    (∃ i, commentFrom none 0 line = some i ∧ StandsAlone line i ∧ NoneBefore line i) ∨
      commentFrom none 0 line = none ∧ ∀ i, ¬ StandsAlone line i :=
  commentFrom_cases [] line nofun

theorem commentFrom_eq_none_iff :
    commentFrom none 0 line = none ↔ ∀ i, ¬ StandsAlone line i := by
  obtain ⟨i, found, alone, -⟩ | ⟨nowhere, none⟩ := commentFrom_none_cases line
  · rw [found]
    exact ⟨nofun, fun none => absurd alone (none i)⟩
  · exact ⟨fun _ => none, fun _ => nowhere⟩

/-! ### What is left of a line -/

/-- The first thing on the line is a `#`. -/
def IsComment (line : List Char) : Prop :=
  ∃ blanks text, line = blanks ++ '#' :: text ∧ ∀ c ∈ blanks, Blank.isBlank c = true

theorem isComment_iff : IsComment line ↔ (Blank.trimStart line).head? = some '#' := by
  rw [Blank.trimStart]
  constructor
  · rintro ⟨blanks, text, rfl, blank⟩
    rw [List.dropWhile_append_of_pos blank]
    rfl
  · intro mark
    obtain ⟨text, rest⟩ := List.head?_eq_some_iff.mp mark
    refine ⟨line.takeWhile Blank.isBlank, text, ?_, fun c => List.mem_takeWhile_imp⟩
    rw [← rest, List.takeWhile_append_dropWhile]

theorem stripComment_of_isComment (comment : IsComment line) : stripComment line = [] :=
  stripComment_of_mark (isComment_iff.mp comment)

theorem stripComment_of_not_isComment (other : ¬ IsComment line) :
    stripComment line =
      match commentFrom none 0 line with
      | some i => line.take i
      | none => line := if_neg (mt isComment_iff.mpr other)

/-- **A line is cut at the first `#` that stands alone.** -/
theorem stripComment_of_first (other : ¬ IsComment line) (alone : StandsAlone line i)
    (first : NoneBefore line i) : stripComment line = line.take i := by
  obtain ⟨j, found, alone', first'⟩ | ⟨-, none⟩ := commentFrom_none_cases line
  · obtain rfl : j = i := by
      rcases Nat.lt_trichotomy j i with before | same | behind
      · exact absurd alone' (first j before)
      · exact same
      · exact absurd alone (first' i behind)
    rw [stripComment_of_not_isComment other, found]
  · exact absurd alone (none i)

/-- **A line where no `#` stands alone is left whole.** -/
theorem stripComment_of_none (other : ¬ IsComment line) (none : ∀ i, ¬ StandsAlone line i) :
    stripComment line = line := by
  rw [stripComment_of_not_isComment other, commentFrom_eq_none_iff.mpr none]

/-- What is left is the longest part from the front that ends before the first `#` that stands
alone. -/
theorem stripComment_longest (other : ¬ IsComment line) :
    stripComment line <+: line ∧ (∀ i, StandsAlone line i → (stripComment line).length ≤ i) ∧
      ∀ part, part <+: line → (∀ i, StandsAlone line i → part.length ≤ i) →
        part <+: stripComment line := by
  obtain ⟨i, -, alone, first⟩ | ⟨-, none⟩ := commentFrom_none_cases line
  · rw [stripComment_of_first other alone first]
    have within := List.take_prefix i line
    refine ⟨within, fun j found => ?_, fun part within short => ?_⟩
    · have behind : i ≤ j := Nat.le_of_not_lt fun before => first j before found
      exact Nat.le_trans (List.length_take_le i line) behind
    · rw [List.prefix_take_iff]
      exact ⟨within, short i alone⟩
  · rw [stripComment_of_none other none]
    exact ⟨List.prefix_refl line, fun i alone => absurd alone (none i), fun part within _ => within⟩

/-! ### What stands behind a line -/

/-- What may stand behind a line and says nothing: blanks, and perhaps a `#` that stands alone with
anything behind it. -/
inductive Trailing : List Char → Prop where
  | blanks {blanks : List Char} (blank : ∀ c ∈ blanks, Blank.isBlank c = true) : Trailing blanks
  | comment {blanks text : List Char} (some : blanks ≠ [])
    (blank : ∀ c ∈ blanks, Blank.isBlank c = true)
    (apart : ∀ c, text.head? = .some c → Blank.isBlank c = true) : Trailing (blanks ++ '#' :: text)

theorem Trailing.head? {more : List Char} (trailing : Trailing more) :
    ∀ c, more.head? = some c → Blank.isBlank c = true := by
  intro c first
  cases trailing with
  | blanks blank => exact blank c (List.mem_of_head? first)
  | @comment blanks text some blank =>
    obtain ⟨b, others, rfl⟩ := List.exists_cons_of_ne_nil some
    cases first
    exact blank _ List.mem_cons_self

/-- Where a line ends, a blank is as good as the end. -/
theorem standsAlone_append_iff {text more : List Char}
    (blank : ∀ c, more.head? = some c → Blank.isBlank c = true) (inside : i < text.length) :
    StandsAlone (text ++ more) i ↔ StandsAlone text i := by
  have here : (text ++ more)[i]? = text[i]? := List.getElem?_append_left inside
  have earlier : (text ++ more)[i - 1]? = text[i - 1]? := List.getElem?_append_left (by omega)
  have next : (∀ c, (text ++ more)[i + 1]? = some c → Blank.isBlank c = true) ↔
      ∀ c, text[i + 1]? = some c → Blank.isBlank c = true := by
    by_cases last : i + 1 = text.length
    · have first : (text ++ more)[i + 1]? = more.head? := by
        rw [List.getElem?_append_right (by omega), last, Nat.sub_self, List.head?_eq_getElem?]
      have beyond : text[i + 1]? = none := List.getElem?_eq_none (by omega)
      rw [first, beyond]
      exact ⟨fun _ => nofun, fun _ => blank⟩
    · rw [List.getElem?_append_left (by omega)]
  constructor
  · rintro ⟨mark, before, after⟩
    exact ⟨here ▸ mark, earlier ▸ before, next.mp after⟩
  · rintro ⟨mark, before, after⟩
    exact ⟨here ▸ mark, earlier ▸ before, next.mpr after⟩

/-- A blank is no `#`. -/
theorem not_standsAlone_of_blank {blanks more : List Char}
    (blank : ∀ c ∈ blanks, Blank.isBlank c = true) (behind : line.length ≤ i)
    (within : i < line.length + blanks.length) : ¬ StandsAlone (line ++ (blanks ++ more)) i := by
  intro alone
  have mark := alone.mark
  rw [List.getElem?_append_right behind, List.getElem?_append_left (by omega)] at mark
  have clash := blank '#' (List.mem_of_getElem? mark)
  exact absurd clash (by decide)

/-- Blanks behind a line are trimmed off. -/
theorem trim_append_blanks {blanks : List Char} (blank : ∀ c ∈ blanks, Blank.isBlank c = true) :
    Blank.trim (line ++ blanks) = Blank.trim line := by
  unfold Blank.trim Blank.trimStart
  have blank' : ∀ c ∈ blanks.reverse, Blank.isBlank c = true :=
    fun c mem => blank c (List.mem_reverse.mp mem)
  by_cases all : line.dropWhile Blank.isBlank = []
  · have all' := List.dropWhile_eq_nil_iff.mp all
    rw [all, List.dropWhile_append_of_pos all', List.dropWhile_eq_nil_iff.mpr blank]
  · rw [List.dropWhile_append, if_neg (by simpa using all), List.reverse_append,
      List.dropWhile_append_of_pos blank']

theorem IsComment.append (comment : IsComment line) (more : List Char) : IsComment (line ++ more) := by
  obtain ⟨blanks, text, rfl, blank⟩ := comment
  exact ⟨blanks, text ++ more, by simp, blank⟩

/-- A line becomes a comment only if all of it is blank. -/
theorem blank_of_isComment_append {more : List Char} (other : ¬ IsComment line)
    (comment : IsComment (line ++ more)) : ∀ c ∈ line, Blank.isBlank c = true := by
  rw [isComment_iff] at other comment
  unfold Blank.trimStart at other comment
  rw [← List.dropWhile_eq_nil_iff]
  by_contra ink
  obtain ⟨c, text, rest⟩ := List.exists_cons_of_ne_nil ink
  rw [List.dropWhile_append, if_neg (by simpa using ink), rest] at comment
  rw [rest] at other
  exact other comment

/-- Where no `#` stands alone, none does with blanks behind it. -/
theorem noneBefore_append {blanks more : List Char} (none : ∀ i, ¬ StandsAlone line i)
    (blank : ∀ c ∈ blanks, Blank.isBlank c = true)
    (first : ∀ c, (blanks ++ more).head? = some c → Blank.isBlank c = true) :
    NoneBefore (line ++ (blanks ++ more)) (line.length + blanks.length) := by
  intro i before alone
  by_cases inside : i < line.length
  · exact none i ((standsAlone_append_iff first inside).mp alone)
  · exact not_standsAlone_of_blank blank (Nat.le_of_not_lt inside) before alone

/-- A line that was cut is cut at the same place. -/
theorem stripComment_append_of_first {more : List Char} (trailing : Trailing more)
    (other : ¬ IsComment line) (alone : StandsAlone line i) (first : NoneBefore line i) :
    stripComment (line ++ more) = line.take i := by
  have other' : ¬ IsComment (line ++ more) := by
    intro comment
    have clash := blank_of_isComment_append other comment '#' (List.mem_of_getElem? alone.mark)
    exact absurd clash (by decide)
  have alone' : StandsAlone (line ++ more) i :=
    (standsAlone_append_iff trailing.head? alone.lt).mpr alone
  have first' : NoneBefore (line ++ more) i := fun j before found =>
    first j before
      ((standsAlone_append_iff trailing.head? (Nat.lt_trans before alone.lt)).mp found)
  rw [stripComment_of_first other' alone' first',
    List.take_append_of_le_length (Nat.le_of_lt alone.lt)]

/-- A line that was left whole gets some blanks. -/
theorem stripComment_append_of_none {more : List Char} (trailing : Trailing more)
    (none : ∀ i, ¬ StandsAlone line i) (other : ¬ IsComment (line ++ more)) :
    ∃ blanks, (∀ c ∈ blanks, Blank.isBlank c = true) ∧
      stripComment (line ++ more) = line ++ blanks := by
  have begins := trailing.head?
  cases trailing with
  | blanks blank =>
    refine ⟨more, blank, stripComment_of_none other fun i alone => ?_⟩
    have inside := alone.lt
    rw [← List.append_nil more] at begins alone
    rw [List.length_append] at inside
    exact noneBefore_append none blank begins i inside alone
  | @comment blanks text some blank apart =>
    have last : (line ++ blanks).getLast? = .some (blanks.getLast some) := by
      rw [List.getLast?_append, List.getLast?_eq_some_getLast some, Option.some_or]
    have alone : StandsAlone (line ++ blanks ++ '#' :: text) (line ++ blanks).length := by
      rw [← startsComment_iff, startsComment, Bool.and_eq_true, Option.any_eq_true,
        Option.all_eq_true]
      exact ⟨⟨_, last, blank _ (List.getLast_mem some)⟩, apart⟩
    have first := noneBefore_append none blank begins
    rw [← List.append_assoc] at other first ⊢
    rw [← List.length_append] at first
    exact ⟨blanks, blank, (stripComment_of_first other alone first).trans List.take_left⟩

/-- **What is left of a line does not change if blanks or a comment are put behind it**, blanks at its
end apart. -/
theorem trim_stripComment_append {more : List Char} (trailing : Trailing more) :
    Blank.trim (stripComment (line ++ more)) = Blank.trim (stripComment line) := by
  by_cases comment : IsComment line
  · rw [stripComment_of_isComment comment, stripComment_of_isComment (comment.append more)]
  obtain ⟨i, -, alone, first⟩ | ⟨-, none⟩ := commentFrom_none_cases line
  · rw [stripComment_append_of_first trailing comment alone first,
      stripComment_of_first comment alone first]
  · have whole : stripComment line = line := stripComment_of_none comment none
    by_cases now : IsComment (line ++ more)
    · -- There was nothing on the line, and now there is a comment.
      have blank := blank_of_isComment_append comment now
      rw [stripComment_of_isComment now, whole]
      exact (@trim_append_blanks [] _ blank).symm
    · obtain ⟨blanks, blank, left⟩ := stripComment_append_of_none trailing none now
      rw [left, whole, trim_append_blanks blank]

/-- **A line with blanks or a comment behind it says what it said.** -/
theorem Line.ofChars_append {more : List Char} (trailing : Trailing more) :
    Line.ofChars (line ++ more) = Line.ofChars line := by
  unfold Line.ofChars
  rw [trim_stripComment_append trailing]

/-! ### Lines that are left whole -/

theorem trimStart_split (key text : List Char) :
    Blank.trimStart (key ++ '=' :: text) = Blank.trimStart key ++ '=' :: text := by
  unfold Blank.trimStart
  by_cases all : key.dropWhile Blank.isBlank = []
  · rw [List.dropWhile_append_of_pos (List.dropWhile_eq_nil_iff.mp all), all]
    rfl
  · rw [List.dropWhile_append, if_neg (by simpa using all)]

/-- An assignment loses the blanks at its two ends. -/
theorem trim_split (key text : List Char) :
    Blank.trim (key ++ '=' :: text) =
      Blank.trimStart key ++ '=' :: text.rdropWhile Blank.isBlank := by
  have turned : (Blank.trimStart key ++ '=' :: text).reverse =
      text.reverse ++ '=' :: (Blank.trimStart key).reverse := by simp
  rw [Blank.trim, trimStart_split, turned, trimStart_split]
  simp [List.rdropWhile, Blank.trimStart]

theorem trim_trimStart (key : List Char) : Blank.trim (Blank.trimStart key) = Blank.trim key := by
  unfold Blank.trim Blank.trimStart
  rw [List.dropWhile_idempotent]

theorem trim_rdropWhile (text : List Char) :
    Blank.trim (text.rdropWhile Blank.isBlank) = Blank.trim text := by
  have split : text.rdropWhile Blank.isBlank ++ (text.reverse.takeWhile Blank.isBlank).reverse =
      text := by
    rw [List.rdropWhile, ← List.reverse_append, List.takeWhile_append_dropWhile,
      List.reverse_reverse]
  have blank : ∀ c ∈ (text.reverse.takeWhile Blank.isBlank).reverse, Blank.isBlank c = true :=
    fun c mem => List.mem_takeWhile_imp (List.mem_reverse.mp mem)
  have trimmed := @trim_append_blanks (text.rdropWhile Blank.isBlank) _ blank
  rw [split] at trimmed
  exact trimmed.symm

/-- **A value in which no `#` stands alone is kept in full.** -/
theorem Line.ofChars_of_none {key value : List Char} (first : '=' ∉ key)
    (other : ¬ IsComment (key ++ '=' :: value))
    (none : ∀ i, ¬ StandsAlone (key ++ '=' :: value) i) :
    Line.ofChars (key ++ '=' :: value) = .assignment (Blank.trim key) (Blank.trim value) := by
  have split := trim_split key value
  have first' : '=' ∉ Blank.trimStart key :=
    fun mem => first ((List.dropWhile_sublist _).mem mem)
  rw [← stripComment_of_none other none] at split
  rw [Line.ofChars_of_split split first', trim_trimStart, trim_rdropWhile]

/-! ### Whole texts -/

/-- Notes and options depend on what the lines say. -/
theorem applyLines_congr {lines others : List (List Char)}
    (same : lines.map Line.ofChars = others.map Line.ofChars) (noted : List Note)
    (options : Options) : applyLines noted options lines = applyLines noted options others := by
  induction lines generalizing others noted options with
  | nil =>
    obtain rfl := List.map_eq_nil_iff.mp same.symm
    rfl
  | cons line lines ih =>
    obtain ⟨other, others, rfl, same, rest⟩ := List.map_eq_cons_iff.mp same.symm
    have step : options.applyLine line = options.applyLine other := by
      unfold applyLine
      rw [same]
    rw [applyLines, applyLines, step]
    exact ih rest.symm _ _

theorem parse_congr_lines {text other : String}
    (same : (lines text.toList).map Line.ofChars = (lines other.toList).map Line.ofChars) :
    parse text = parse other := applyLines_congr same [] {}

/-- A line ends in front of this. -/
inductive EndsLine : List Char → Prop where
  | last : EndsLine []
  | feed (rest : List Char) : EndsLine ('\n' :: rest)
  | returnFeed (rest : List Char) : EndsLine ('\r' :: '\n' :: rest)

theorem lines_of_one (one : '\n' ∉ line) : lines line = [line] := List.splitOn_eq_singleton one

theorem lines_append_feed (one : '\n' ∉ line) (rest : List Char) :
    lines (line ++ '\n' :: rest) = line :: lines rest := by
  unfold lines
  rw [List.splitOn_append_cons_self, List.splitOn_eq_singleton one]
  rfl

/-- A text is lines, and the beginning of one more. -/
theorem exists_lines (front : List Char) : ∃ before last, '\n' ∉ last ∧
    ∀ rest, lines (front ++ rest) = before ++ lines (last ++ rest) := by
  induction front using List.reverseRecOn with
  | nil => exact ⟨[], [], List.not_mem_nil, fun rest => rfl⟩
  | append_singleton front c ih =>
    obtain ⟨before, last, one, split⟩ := ih
    by_cases feed : c = '\n'
    · refine ⟨before ++ [last], [], List.not_mem_nil, fun rest => ?_⟩
      rw [List.append_assoc, List.singleton_append, split, feed, lines_append_feed one]
      simp
    · refine ⟨before, last ++ [c], ?_, fun rest => ?_⟩
      · simpa [one] using Ne.symm feed
      · rw [List.append_assoc, split, List.append_assoc]

/-- What ends a line may be a carriage return that counts as a part of it. -/
theorem EndsLine.exists_lines (ends : EndsLine back) : ∃ ending after, Trailing ending ∧
    ∀ line, '\n' ∉ line → lines (line ++ back) = (line ++ ending) :: after := by
  cases ends with
  | last =>
    refine ⟨[], [], .blanks nofun, fun line one => ?_⟩
    rw [lines_of_one (by simpa using one)]
  | feed rest =>
    refine ⟨[], lines rest, .blanks nofun, fun line one => ?_⟩
    rw [lines_append_feed one, List.append_nil]
  | returnFeed rest =>
    refine ⟨['\r'], lines rest, .blanks (List.all_eq_true.mp rfl), fun line one => ?_⟩
    have one' : '\n' ∉ line ++ ['\r'] := by simpa using one
    rw [← lines_append_feed one' rest]
    simp

/-- A comment, and what else ends its line. -/
theorem trailing_comment (comment : List Char) : Trailing (' ' :: '#' :: ' ' :: comment) :=
  @Trailing.comment [' '] _ (List.cons_ne_nil _ _) (List.all_eq_true.mp rfl)
    fun _ first => by cases first; rfl

/-- **A comment put behind a line of a text changes nothing**, neither options nor notes. -/
theorem parse_insert_comment (front : String) {comment back : String} (one : '\n' ∉ comment.toList)
    (ends : EndsLine back.toList) :
    parse (front ++ " # " ++ comment ++ back) = parse (front ++ back) := by
  obtain ⟨before, last, one', split⟩ := exists_lines front.toList
  obtain ⟨ending, after, trailing, ends⟩ := ends.exists_lines
  have plain : lines (front ++ back).toList = before ++ (last ++ ending) :: after := by
    rw [String.toList_append, split, ends last one']
  let more := ' ' :: '#' :: ' ' :: comment.toList
  have whole : (front ++ " # " ++ comment ++ back).toList =
      front.toList ++ (more ++ back.toList) := by
    simp [String.toList_append, more]
  have commented : lines (front ++ " # " ++ comment ++ back).toList =
      before ++ (last ++ (more ++ ending)) :: after := by
    have inOne : '\n' ∉ last ++ more := by simp [one', one, more]
    rw [whole, split, ← List.append_assoc, ends _ inOne, List.append_assoc]
  have unchanged : Line.ofChars (last ++ (more ++ ending)) = Line.ofChars last :=
    Line.ofChars_append (trailing_comment (comment.toList ++ ending))
  apply parse_congr_lines
  rw [plain, commented, List.map_append, List.map_append, List.map_cons, List.map_cons, unchanged,
    Line.ofChars_append trailing]

/-- **Comments change nothing, and nothing but comments is cut off.**  A comment may be put behind
any line of a text.  Of a line that is no comment as a whole the longest part is kept that ends
before the first `#` that stands alone, so a value where none does is kept in full. -/
theorem trailing_comments_change_nothing :
    (∀ front comment back : String, '\n' ∉ comment.toList → EndsLine back.toList →
      parse (front ++ " # " ++ comment ++ back) = parse (front ++ back)) ∧
    (∀ line, IsComment line → stripComment line = []) ∧
    (∀ line, ¬ IsComment line →
      stripComment line <+: line ∧ (∀ i, StandsAlone line i → (stripComment line).length ≤ i) ∧
        ∀ part, part <+: line → (∀ i, StandsAlone line i → part.length ≤ i) →
          part <+: stripComment line) ∧
    ∀ key value, '=' ∉ key → ¬ IsComment (key ++ '=' :: value) →
      (∀ i, ¬ StandsAlone (key ++ '=' :: value) i) →
      stripComment (key ++ '=' :: value) = key ++ '=' :: value ∧
        Line.ofChars (key ++ '=' :: value) = .assignment (Blank.trim key) (Blank.trim value) := by
  refine ⟨fun front comment back => parse_insert_comment front,
    fun line => stripComment_of_isComment, fun line => stripComment_longest, ?_⟩
  intro key value first other none
  exact ⟨stripComment_of_none other none, Line.ofChars_of_none first other none⟩

/-- A `#` at the end of a line, before it gets a comment; others within a word and in front. -/
theorem trailing_comments_change_nothing_hash :
    parse ("motd = Join #1 #" ++ " # " ++ "the first" ++ "\r\nbacklog = 7") =
        parse ("motd = Join #1 #" ++ "\r\nbacklog = 7") ∧
      stripComment " \t# motd = x".toList = [] ∧
      "a #1".toList <+: stripComment "a #1 # b # c".toList ∧
      Line.ofChars "motd = Join #1 server#".toList =
        .assignment "motd".toList "Join #1 server#".toList := by
  obtain ⟨insert, blank, longest, whole⟩ := trailing_comments_change_nothing
  have other : ¬ IsComment "a #1 # b # c".toList := by
    rw [isComment_iff]
    decide
  refine ⟨insert _ _ _ (by decide) (.returnFeed _), blank _ ⟨" \t".toList, " motd = x".toList, rfl,
    List.all_eq_true.mp rfl⟩, (longest _ other).2.2 _ ⟨" # b # c".toList, rfl⟩ ?_, ?_⟩
  · intro i alone
    rcases i with _ | _ | _ | _ | i
    · exact absurd alone.mark (by decide)
    · exact absurd alone.mark (by decide)
    · exact absurd (alone.after '1' rfl) (by decide)
    · exact absurd alone.mark (by decide)
    · exact Nat.le_add_left 4 i
  · exact (whole "motd ".toList " Join #1 server#".toList (by decide)
      (by rw [isComment_iff]; decide) (commentFrom_eq_none_iff.mp (by decide))).2

end GameTransport.Options
