/-
# Blanks around pieces of text

What is left of a text without the blanks at its ends, and which pieces a text falls
into at a separator with blanks around it. Both are characterised by how the text can be
written: `trim` by a run of blanks on either side, and `cut` followed by `trim` by the
relation `Separated`, which puts the pieces together again with any spacing.
-/
import Mathlib.Data.List.TakeWhile
import Mips32.Text.Blank
import Mips32.Text.Split

namespace Mips32.Text

/-! ## The front of a text -/

/-- A text is taken apart where a class of characters ends. -/
theorem span_append {inside : Char → Bool} {front back : List Char}
    (within : ∀ c ∈ front, inside c = true) (stops : ∀ c ∈ back.head?, inside c = false) :
    (front ++ back).takeWhile inside = front ∧ (front ++ back).dropWhile inside = back := by
  rw [List.takeWhile_append_of_pos within, List.dropWhile_append_of_pos within]
  cases back with
  | nil => exact ⟨List.append_nil front, rfl⟩
  | cons c rest =>
      have outside : ¬ inside c = true := Bool.not_eq_true _ ▸ stops c rfl
      rw [List.takeWhile_cons_of_neg outside, List.dropWhile_cons_of_neg outside]
      exact ⟨List.append_nil front, rfl⟩

/-- A text is taken apart at the first place of a character. -/
theorem span_at {mark : Char} {front : List Char} (absent : mark ∉ front) (back : List Char) :
    (front ++ mark :: back).takeWhile (· ≠ mark) = front ∧
      (front ++ mark :: back).dropWhile (· ≠ mark) = mark :: back := by
  apply span_append
  · exact fun c listed => decide_eq_true fun same => absent (same ▸ listed)
  · simp

theorem outside_of_head_dropWhile {inside : Char → Bool} {text : List Char} {c : Char}
    (first : c ∈ (text.dropWhile inside).head?) : inside c = false := by
  have stops := List.head?_dropWhile_not inside text
  rw [Option.mem_def.mp first] at stops
  exact stops

/-! ## Blanks at the ends -/

/-- A run of blanks, which may be empty. -/
def Blanks (text : List Char) : Prop :=
  ∀ c ∈ text, isBlank c = true

/-- A text without blanks at its ends. -/
structure Tight (text : List Char) : Prop where
  front : ∀ c ∈ text.head?, isBlank c = false
  back : ∀ c ∈ text.getLast?, isBlank c = false

theorem blanks_nil : Blanks [] :=
  List.forall_mem_nil _

theorem Blanks.append {first second : List Char} (early : Blanks first)
    (late : Blanks second) : Blanks (first ++ second) := by
  intro c listed
  rcases List.mem_append.mp listed with before | after
  · exact early c before
  · exact late c after

theorem Blanks.not_mem {blanks : List Char} (spacing : Blanks blanks) {c : Char}
    (visible : isBlank c = false) : c ∉ blanks := by
  intro listed
  rw [spacing c listed] at visible
  cases visible

/-- A text without any blank is tight. -/
theorem tight_of_solid {text : List Char} (solid : ∀ c ∈ text, isBlank c = false) :
    Tight text where
  front c first := solid c (List.mem_of_head? first)
  back c last := solid c (List.mem_of_getLast? last)

/-- Blanks between two tight texts do not count as blanks at the ends. -/
theorem Tight.join {first last : List Char} (tightFirst : Tight first) (someFirst : first ≠ [])
    (middle : List Char) (tightLast : Tight last) (someLast : last ≠ []) :
    Tight (first ++ middle ++ last) where
  front c opening := by
    rw [List.append_assoc, List.head?_append, List.head?_eq_some_head someFirst] at opening
    exact tightFirst.front c ((List.head?_eq_some_head someFirst).trans opening)
  back c closing := by
    rw [List.getLast?_append, List.getLast?_eq_some_getLast someLast] at closing
    exact tightLast.back c ((List.getLast?_eq_some_getLast someLast).trans closing)

theorem Blanks.dropWhile_append {blanks : List Char} (spacing : Blanks blanks)
    {text : List Char} (front : ∀ c ∈ text.head?, isBlank c = false) :
    (blanks ++ text).dropWhile isBlank = text :=
  (span_append spacing front).2

theorem trimRight_append {core trail : List Char} (spacing : Blanks trail)
    (back : ∀ c ∈ core.getLast?, isBlank c = false) : trimRight (core ++ trail) = core := by
  have reversed : Blanks trail.reverse := fun c listed =>
    spacing c (List.mem_reverse.mp listed)
  rw [trimRight, List.reverse_append, reversed.dropWhile_append, List.reverse_reverse]
  rw [List.head?_reverse]
  exact back

/-- Blanks on either side of a tight text are what trimming removes. -/
theorem trim_append {lead core trail : List Char} (before : Blanks lead) (tight : Tight core)
    (after : Blanks trail) : trim (lead ++ core ++ trail) = core := by
  rw [trim, List.append_assoc]
  cases core with
  | nil =>
      have nothing : (lead ++ trail).dropWhile isBlank = [] := by
        have all : (lead ++ trail ++ []).dropWhile isBlank = [] :=
          (before.append after).dropWhile_append tight.front
        rwa [List.append_nil] at all
      rw [List.nil_append, nothing]
      rfl
  | cons c rest =>
      have front : ∀ d ∈ (c :: rest ++ trail).head?, isBlank d = false := tight.front
      rw [before.dropWhile_append front]
      exact trimRight_append after tight.back

/-- The text after the leading blanks is what trimming leaves and the trailing blanks. -/
theorem trim_append_trailing (text : List Char) :
    trim text ++ ((text.dropWhile isBlank).reverse.takeWhile isBlank).reverse =
      text.dropWhile isBlank := by
  rw [trim, trimRight, ← List.reverse_append, List.takeWhile_append_dropWhile,
    List.reverse_reverse]

theorem tight_trim (text : List Char) : Tight (trim text) where
  front c first := by
    have firstLeft : c ∈ (text.dropWhile isBlank).head? := by
      rw [← trim_append_trailing, List.head?_append, Option.mem_def.mp first]
      rfl
    exact outside_of_head_dropWhile firstLeft
  back c last := by
    rw [trim, trimRight, List.getLast?_reverse] at last
    exact outside_of_head_dropWhile last

/-- Every text is what trimming leaves of it between two runs of blanks. -/
theorem exists_trim (text : List Char) :
    ∃ lead trail, Blanks lead ∧ Blanks trail ∧ text = lead ++ trim text ++ trail := by
  refine ⟨text.takeWhile isBlank,
    ((text.dropWhile isBlank).reverse.takeWhile isBlank).reverse, ?_, ?_, ?_⟩
  · exact fun c listed => List.mem_takeWhile_imp listed
  · exact fun c listed => List.mem_takeWhile_imp (List.mem_reverse.mp listed)
  · rw [List.append_assoc, trim_append_trailing, List.takeWhile_append_dropWhile]

theorem mem_of_mem_trim {text : List Char} {c : Char} (listed : c ∈ trim text) : c ∈ text := by
  obtain ⟨lead, trail, -, -, written⟩ := exists_trim text
  rw [written]
  exact List.mem_append_left _ (List.mem_append_right _ listed)

theorem trim_eq_self {text : List Char} (tight : Tight text) : trim text = text := by
  have alone := trim_append blanks_nil tight blanks_nil
  rwa [List.nil_append, List.append_nil] at alone

/-! ## Separators -/

theorem cut_eq_splitOn (separator : Char) (text : List Char) :
    cut separator text = text.splitOn separator := by
  induction text with
  | nil => rfl
  | cons c rest ih =>
      rw [List.splitOn_cons_eq_if_modifyHead, ← ih]
      show cutStep separator c (cut separator rest) = _
      by_cases same : c = separator
      · simp [cutStep, same]
      · have some : cut separator rest ≠ [] := by
          rw [ih]
          exact List.splitOn_ne_nil separator rest
        obtain ⟨piece, pieces, pieced⟩ := List.exists_cons_of_ne_nil some
        simp [cutStep, same, pieced]

theorem cut_of_not_mem {separator : Char} {text : List Char} (absent : separator ∉ text) :
    cut separator text = [text] := by
  rw [cut_eq_splitOn, List.splitOn_eq_singleton absent]

theorem cut_append_separator {separator : Char} {front : List Char}
    (absent : separator ∉ front) (back : List Char) :
    cut separator (front ++ separator :: back) = front :: cut separator back := by
  rw [cut_eq_splitOn, cut_eq_splitOn, List.splitOn_append_cons_self_of_not_mem absent]

/-- Items in order, with a separator and any blanks around it between each two. -/
inductive Separated (separator : Char) : List Char → List (List Char) → Prop
  | last (item : List Char) : Separated separator item [item]
  | cons {item gap after rest : List Char} {items : List (List Char)} (spaced : Blanks gap)
      (spacedAfter : Blanks after) (others : Separated separator rest items) :
    Separated separator (item ++ gap ++ separator :: (after ++ rest)) (item :: items)

/-- A text with spacing at its ends falls into the items that it puts together. -/
theorem Separated.map_trim_cut {separator : Char} (visible : isBlank separator = false)
    {list : List Char} {items : List (List Char)} (separated : Separated separator list items)
    (proper : ∀ item ∈ items, Tight item ∧ separator ∉ item) {lead trail : List Char}
    (before : Blanks lead) (behind : Blanks trail) :
    (cut separator (lead ++ list ++ trail)).map trim = items := by
  induction separated generalizing lead with
  | last item =>
      obtain ⟨tight, pure⟩ := proper item (List.mem_singleton_self item)
      have whole : separator ∉ lead ++ item ++ trail := by
        simp [before.not_mem visible, pure, behind.not_mem visible]
      rw [cut_of_not_mem whole, List.map_singleton, trim_append before tight behind]
  | @cons item gap after rest items spaced spacedAfter others ih =>
      rw [List.forall_mem_cons] at proper
      obtain ⟨⟨tight, pure⟩, properRest⟩ := proper
      have regrouped : lead ++ (item ++ gap ++ separator :: (after ++ rest)) ++ trail =
          lead ++ item ++ gap ++ separator :: (after ++ rest ++ trail) := by
        simp
      have front : separator ∉ lead ++ item ++ gap := by
        simp [before.not_mem visible, pure, spaced.not_mem visible]
      rw [regrouped, cut_append_separator front, List.map_cons,
        trim_append before tight spaced, ih properRest spacedAfter]

/-- The pieces of a text put it together again. -/
theorem exists_separated {separator : Char} {text : List Char} {items : List (List Char)}
    (pieced : (cut separator text).map trim = items) :
    (∀ item ∈ items, Tight item ∧ separator ∉ item) ∧
      ∃ lead list trail, Blanks lead ∧ Blanks trail ∧ text = lead ++ list ++ trail ∧
        Separated separator list items := by
  have part {piece : List Char} (absent : separator ∉ piece) :
      Tight (trim piece) ∧ separator ∉ trim piece :=
    ⟨tight_trim piece, fun listed => absent (mem_of_mem_trim listed)⟩
  -- The first separator, if there is one, ends the first piece.
  induction items generalizing text with
  | nil =>
      rw [cut_eq_splitOn, List.map_eq_nil_iff] at pieced
      exact absurd pieced (List.splitOn_ne_nil separator text)
  | cons item items ih =>
      by_cases found : separator ∈ text
      · obtain ⟨front, back, rfl, absent⟩ := List.eq_append_cons_of_mem found
        rw [cut_append_separator absent, List.map_cons] at pieced
        obtain ⟨rfl, piecedRest⟩ := List.cons.inj pieced
        obtain ⟨properRest, after, rest, trail, spacedAfter, behind, rfl, others⟩ :=
          ih piecedRest
        obtain ⟨lead, gap, before, spaced, written⟩ := exists_trim front
        refine ⟨List.forall_mem_cons.mpr ⟨part absent, properRest⟩, lead, _, trail, before,
          behind, ?_, .cons spaced spacedAfter others⟩
        conv => lhs; rw [written]
        simp
      · rw [cut_of_not_mem found] at pieced
        obtain ⟨rfl, rfl⟩ := List.cons.inj pieced
        obtain ⟨lead, trail, before, behind, written⟩ := exists_trim text
        exact ⟨List.forall_mem_cons.mpr ⟨part found, List.forall_mem_nil _⟩, lead, _, trail,
          before, behind, written, .last _⟩

end Mips32.Text
