/- Cutting text at a separator character. A cut drops exactly one occurrence of the
   separator; `pieces` drops all of them, so no text has an empty list of pieces. -/
namespace HostHealth.Text

def cutFirst (sep : Char) : List Char → Option (List Char × List Char)
  | [] => none
  | c :: cs =>
    if c = sep then some ([], cs)
    else (cutFirst sep cs).map fun parts => (c :: parts.1, parts.2)

def cutLast (sep : Char) : List Char → Option (List Char × List Char)
  | [] => none
  | c :: cs =>
    match cutLast sep cs with
    | some (before, after) => some (c :: before, after)
    | none => if c = sep then some ([], cs) else none

/-- The parts between the separating characters, empty parts included. -/
def pieces (separates : Char → Bool) : List Char → List (List Char)
  | [] => [[]]
  | c :: cs =>
    if separates c then [] :: pieces separates cs
    else match pieces separates cs with
      | [] => [[c]]
      | piece :: rest => (c :: piece) :: rest

def dropLead? : List Char → List Char → Option (List Char)
  | [], text => some text
  | _ :: _, [] => none
  | l :: lead, c :: text => if l = c then dropLead? lead text else none

def dropLast? (last : Char) (text : List Char) : Option (List Char) :=
  match text.reverse with
  | c :: rest => if c = last then some rest.reverse else none
  | [] => none

def trimEnd (c : Char) (text : List Char) : List Char :=
  (text.reverse.dropWhile (· == c)).reverse

/-- Letters `A` to `Z` become `a` to `z`; every other character stays. -/
def lowerAscii (text : List Char) : List Char := text.map Char.toLower

theorem cutLast_eq_some {sep : Char} {text before after : List Char}
    (h : cutLast sep text = some (before, after)) :
    text = before ++ sep :: after ∧ sep ∉ after := by
  induction text generalizing before with
  | nil => simp [cutLast] at h
  | cons c cs ih =>
    cases hcut : cutLast sep cs with
    | some parts =>
      obtain ⟨b, a⟩ := parts
      simp [cutLast, hcut] at h
      obtain ⟨rfl, rfl⟩ := h
      obtain ⟨htext, hmem⟩ := ih hcut
      exact ⟨by simp [htext], hmem⟩
    | none =>
      by_cases hc : c = sep
      · simp [cutLast, hcut, hc] at h
        obtain ⟨rfl, rfl⟩ := h
        refine ⟨by simp [hc], ?_⟩
        clear ih
        intro hmem
        induction cs with
        | nil => simp at hmem
        | cons d ds ihd =>
          cases hd : cutLast sep ds with
          | some parts => simp [cutLast, hd] at hcut
          | none =>
            by_cases hds : d = sep
            · simp [cutLast, hd, hds] at hcut
            · exact ihd hd (by simpa [Ne.symm hds] using hmem)
      · simp [cutLast, hcut, hc] at h

end HostHealth.Text
