import HostHealth.Text.Blank
import Mathlib.Data.List.Basic
import Mathlib.Data.List.TakeWhile

/- What the readers of texts have in common: cuts at the first or at the last separator, pieces
   between separators, and words between blanks. -/
namespace HostHealth.Text

section Verdicts

variable {ε α : Type} {result : Except ε α} {Accepted : α → Prop} {Refused : ε → Prop}

theorem verdicts_are_exact (accepts : ∀ value, Accepted value → result = .ok value)
    (refuses : ∀ fault, Refused fault → result = .error fault)
    (settled : (∃ value, Accepted value) ∨ ∃ fault, Refused fault) :
    (∀ value, result = .ok value ↔ Accepted value) ∧
      ∀ fault, result = .error fault ↔ Refused fault := by
  rcases settled with ⟨own, accepted⟩ | ⟨own, refused⟩
  · have found := accepts own accepted
    refine ⟨fun value => ⟨?_, accepts value⟩, fun fault => ⟨?_, refuses fault⟩⟩
    · intro same
      rw [found] at same
      cases same
      exact accepted
    · intro same
      rw [found] at same
      cases same
  · have found := refuses own refused
    refine ⟨fun value => ⟨?_, accepts value⟩, fun fault => ⟨?_, refuses fault⟩⟩
    · intro same
      rw [found] at same
      cases same
    · intro same
      rw [found] at same
      cases same
      exact refused

end Verdicts

section Cuts

variable {sep : Char} {text before after : List Char}

theorem absent_of_no_char (whole : ∀ c ∈ text, (c == sep) = false) : sep ∉ text := by
  intro member
  simpa using whole sep member

theorem cut_first_append (own : sep ∉ before) :
    cutFirst sep (before ++ sep :: after) = some (before, after) := by
  induction before with
  | nil => simp [cutFirst]
  | cons c rest ih =>
    obtain ⟨other, later⟩ := List.ne_and_not_mem_of_not_mem_cons own
    rw [List.cons_append, cutFirst, if_neg (Ne.symm other), ih later]
    rfl

theorem cut_first_none_iff : cutFirst sep text = none ↔ sep ∉ text := by
  induction text with
  | nil => simp [cutFirst]
  | cons c rest ih =>
    by_cases same : c = sep
    · simp [cutFirst, same]
    · simp [cutFirst, same, Ne.symm same, ih]

theorem cut_first_or_whole (sep : Char) (text : List Char) :
    (cutFirst sep text).getD (text, []) =
      (text.takeWhile (· != sep), (text.dropWhile (· != sep)).drop 1) := by
  induction text with
  | nil => rfl
  | cons c rest ih =>
    by_cases same : c = sep
    · simp [cutFirst, same]
    · rw [cutFirst, if_neg same, List.takeWhile_cons_of_pos (by simpa using same),
        List.dropWhile_cons_of_pos (by simpa using same)]
      rw [Prod.ext_iff] at ih
      cases cut : cutFirst sep rest with
      | none => simpa [cut] using ih
      | some parts => simpa [cut] using ih

theorem cut_last_none_iff : cutLast sep text = none ↔ sep ∉ text := by
  induction text with
  | nil => simp [cutLast]
  | cons c rest ih =>
    cases cut : cutLast sep rest with
    | none =>
      by_cases same : c = sep
      · simp [cutLast, cut, same]
      · simp [cutLast, cut, same, Ne.symm same, ih.mp cut]
    | some parts =>
      have inside : sep ∈ rest := by
        by_contra outside
        rw [ih.mpr outside] at cut
        cases cut
      simp [cutLast, cut, inside]

theorem cut_last_append (own : sep ∉ after) :
    cutLast sep (before ++ sep :: after) = some (before, after) := by
  induction before with
  | nil => simp [cutLast, cut_last_none_iff.mpr own]
  | cons c rest ih => simp [cutLast, ih]

theorem cut_last_some_iff :
    cutLast sep text = some (before, after) ↔ text = before ++ sep :: after ∧ sep ∉ after := by
  constructor
  · exact cutLast_eq_some
  · rintro ⟨rfl, own⟩
    exact cut_last_append own

theorem drop_last_some_iff {last : Char} {front : List Char} :
    dropLast? last text = some front ↔ text = front ++ [last] := by
  unfold dropLast?
  constructor
  · intro dropped
    split at dropped
    · rename_i c rest own
      split at dropped
      · rename_i same
        cases dropped
        rw [← List.reverse_reverse text, own, same, List.reverse_cons]
      · cases dropped
    · cases dropped
  · rintro rfl
    simp

theorem drop_lead_append (lead text : List Char) : dropLead? lead (lead ++ text) = some text := by
  induction lead with
  | nil => rfl
  | cons c rest ih =>
    rw [List.cons_append, dropLead?, if_pos rfl, ih]

theorem drop_lead_some_iff {lead rest : List Char} :
    dropLead? lead text = some rest ↔ text = lead ++ rest := by
  constructor
  · intro dropped
    induction lead generalizing text with
    | nil => simpa [dropLead?] using dropped
    | cons l lead ih =>
      cases text with
      | nil => simp [dropLead?] at dropped
      | cons c text =>
        by_cases same : l = c
        · simp only [dropLead?, same, if_true] at dropped
          simp [same, ih dropped]
        · simp [dropLead?, same] at dropped
  · rintro rfl
    exact drop_lead_append lead rest

end Cuts

section Pieces

variable {separates : Char → Bool} {text : List Char}

theorem pieces_eq_split (separates : Char → Bool) (text : List Char) :
    pieces separates text = text.splitOnP separates := by
  induction text with
  | nil => rw [pieces, List.splitOnP_nil]
  | cons c rest ih =>
    rw [pieces, List.splitOnP_cons_eq_if_modifyHead, ih]
    split
    · rfl
    · obtain ⟨first, more, own⟩ := List.exists_cons_of_ne_nil (List.splitOnP_ne_nil separates rest)
      rw [own, List.modifyHead_cons]

theorem pieces_of_whole (whole : ∀ c ∈ text, separates c = false) :
    pieces separates text = [text] := by
  rw [pieces_eq_split, List.splitOnP_eq_singleton whole]

theorem pieces_append {front rest : List Char} {separator : Char}
    (whole : ∀ c ∈ front, separates c = false) (cuts : separates separator = true) :
    pieces separates (front ++ separator :: rest) = front :: pieces separates rest := by
  rw [pieces_eq_split, pieces_eq_split, List.splitOnP_append_cons _ _ cuts,
    List.splitOnP_eq_singleton whole, List.singleton_append]

theorem piece_is_whole {piece : List Char} (member : piece ∈ pieces separates text) :
    ∀ c ∈ piece, separates c = false := by
  induction text generalizing piece with
  | nil =>
    rw [pieces, List.mem_singleton] at member
    simp [member]
  | cons c rest ih =>
    rw [pieces] at member
    split at member
    · rcases List.mem_cons.mp member with empty | later
      · simp [empty]
      · exact ih later
    · rename_i joins
      split at member
      · rw [List.mem_singleton] at member
        rw [member]
        simpa using joins
      · rename_i first more own
        rcases List.mem_cons.mp member with rfl | later
        · exact List.forall_mem_cons.mpr ⟨by simpa using joins, ih (by simp [own])⟩
        · exact ih (by simp [own, later])

variable {sep : Char}

theorem pieces_iff {parts : List (List Char)} (nonempty : parts ≠ []) :
    pieces (· == sep) text = parts ↔
      [sep].intercalate parts = text ∧ ∀ part ∈ parts, sep ∉ part := by
  constructor
  · rintro rfl
    refine ⟨?_, ?_⟩
    · rw [pieces_eq_split, ← List.splitOn_eq_splitOnP, List.intercalate_splitOn]
    · intro part member inside
      simpa using piece_is_whole member sep inside
  · rintro ⟨rfl, whole⟩
    rw [pieces_eq_split, ← List.splitOn_eq_splitOnP, List.splitOn_intercalate sep whole nonempty]

theorem pieces_length : (pieces (· == sep) text).length = text.count sep + 1 := by
  induction text with
  | nil => rfl
  | cons c rest ih =>
    rw [pieces_eq_split] at ih ⊢
    rw [List.splitOnP_cons_eq_if_modifyHead]
    by_cases same : c = sep
    · simp [same, ih]
    · simp [same, ih]

end Pieces

section Words

variable {text front back : List Char} {blank : Char}

theorem words_around_blank (isblank : isBlank blank = true) :
    words (front ++ blank :: back) = words front ++ words back := by
  unfold words
  rw [pieces_eq_split, pieces_eq_split, pieces_eq_split, List.splitOnP_append_cons _ _ isblank,
    List.filter_append]

theorem words_of_word (nonempty : text ≠ []) (whole : ∀ c ∈ text, isBlank c = false) :
    words text = [text] := by
  unfold words
  rw [pieces_of_whole whole]
  simp [nonempty]

theorem words_behind_blank (isblank : isBlank blank = true) : words (blank :: back) = words back := by
  rw [← List.nil_append (blank :: back), words_around_blank isblank]
  rfl

theorem words_behind_blanks (blanks : ∀ c ∈ front, isBlank c = true) :
    words (front ++ back) = words back := by
  induction front with
  | nil => rfl
  | cons c rest ih =>
    obtain ⟨first, later⟩ := List.forall_mem_cons.mp blanks
    rw [List.cons_append, words_behind_blank first, ih later]

theorem words_of_blanks (blanks : ∀ c ∈ text, isBlank c = true) : words text = [] := by
  rw [← List.append_nil text, words_behind_blanks blanks]
  rfl

theorem words_before_blank (nonempty : front ≠ [])
    (whole : ∀ c ∈ front, isBlank c = false)
    (ends : ∀ c ∈ back.head?, isBlank c = true) : words (front ++ back) = front :: words back := by
  cases back with
  | nil =>
    rw [List.append_nil, words_of_word nonempty whole]
    rfl
  | cons c rest =>
    have blank := ends c rfl
    rw [words_around_blank blank, words_of_word nonempty whole, words_behind_blank blank,
      List.singleton_append]

theorem word_is_whole {word : List Char} (member : word ∈ words text) :
    ∀ c ∈ word, isBlank c = false :=
  piece_is_whole (List.mem_filter.mp member).1

theorem words_ne_nil {c : Char} (member : c ∈ text) (solid : isBlank c = false) :
    words text ≠ [] := by
  induction text with
  | nil => cases member
  | cons d rest ih =>
    cases own : isBlank d with
    | true =>
      rw [words_behind_blank own]
      refine ih ((List.mem_cons.mp member).resolve_left ?_)
      rintro rfl
      rw [own] at solid
      cases solid
    | false =>
      rw [← List.takeWhile_append_dropWhile (l := d :: rest) (p := fun c => !isBlank c),
        words_before_blank]
      · exact List.cons_ne_nil _ _
      · simp [own]
      · intro c inside
        simpa using List.mem_takeWhile_imp inside
      · intro c first
        have stopped := List.head?_dropWhile_not (fun c => !isBlank c) (d :: rest)
        rw [Option.mem_def] at first
        simpa [first] using stopped

end Words

end HostHealth.Text
