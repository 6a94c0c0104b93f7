namespace LexPattern.Token

inductive Shape where
  | word (cs : List Char)
  | one (allowed : Char → Bool)
  | run (allowed : Char → Bool)
  | through (stop : List Char)
  | seq (first second : Shape)
  | either (first second : Shape)

namespace Shape

def splitAfter? (stop : List Char) : List Char → Option (List Char × List Char)
  | [] => if stop.isEmpty then some ([],[]) else none
  | c :: cs =>
    if stop.isPrefixOf (c :: cs) then some (stop,(c :: cs).drop stop.length)
    else (splitAfter? stop cs).map fun (x,rest) => (c :: x,rest)

def read? : Shape → List Char → Option (List Char × List Char)
  | word cs,s => if cs.isPrefixOf s then some (cs,s.drop cs.length) else none
  | one _,[] => none
  | one allowed,c :: s => if allowed c then some ([c],s) else none
  | run allowed,s => some (s.takeWhile allowed,s.dropWhile allowed)
  | through stop,s => splitAfter? stop s
  | seq first second,s =>
    match first.read? s with
    | none => none
    | some (x,s) =>
      match second.read? s with
      | none => none
      | some (y,s) => some (x ++ y,s)
  | either first second,s =>
    match first.read? s with
    | some found => some found
    | none => second.read? s

theorem splitAfter?_append {stop s x rest : List Char} (found : splitAfter? stop s = some (x,rest)) :
    s = x ++ rest := by
  induction s generalizing x with
  | nil =>
    simp only [splitAfter?] at found
    split at found <;> simp_all
  | cons c cs ih =>
    simp only [splitAfter?] at found
    split at found
    · next fits =>
      obtain ⟨tail,split⟩ := List.isPrefixOf_iff_prefix.mp fits
      cases found
      rw [← split,List.drop_left]
    · obtain ⟨⟨y,r⟩,inner,joined⟩ := Option.map_eq_some_iff.mp found
      cases joined
      rw [ih inner,List.cons_append]

theorem read?_append {shape : Shape} {s x rest : List Char} (found : shape.read? s = some (x,rest)) :
    s = x ++ rest := by
  induction shape generalizing s x rest with
  | word cs =>
    simp only [read?] at found
    split at found
    · next fits =>
      obtain ⟨tail,split⟩ := List.isPrefixOf_iff_prefix.mp fits
      cases found
      rw [← split,List.drop_left]
    · cases found
  | one allowed =>
    cases s with
    | nil => cases found
    | cons c s =>
      simp only [read?] at found
      split at found <;> cases found
      rfl
  | run allowed =>
    cases found
    exact (List.takeWhile_append_dropWhile).symm
  | through stop => exact splitAfter?_append found
  | seq first second ih₁ ih₂ =>
    simp only [read?] at found
    split at found
    · cases found
    · next y s' one =>
      split at found
      · cases found
      · next z s'' two =>
        cases found
        rw [ih₁ one,ih₂ two,List.append_assoc]
  | either first second ih₁ ih₂ =>
    simp only [read?] at found
    split at found
    · next y one =>
      cases found
      exact ih₁ one
    · exact ih₂ found

def optional (shape : Shape) : Shape := either shape (word [])

def firstOf : List Shape → Shape
  | [] => one fun _ => false
  | [shape] => shape
  | shape :: shapes => either shape (firstOf shapes)

def inOrder : List Shape → Shape
  | [] => word []
  | [shape] => shape
  | shape :: shapes => seq shape (inOrder shapes)

def closedBy (c : Char) : Shape := seq (run (· != c)) (word [c])

def oneOf (cs : List Char) : Shape := one cs.contains

end Shape

end LexPattern.Token
