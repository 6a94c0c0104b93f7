import Mathlib
import LexPattern.Text.Quoted
import LexPattern.Proofs.Text.Digits

namespace LexPattern.Text

-- What is written can be told from anything else that is written, as long as the text behind it may follow.
def Delimited {α : Type} (write : α → List Char) (may : List Char → Prop) : Prop :=
  ∀ {a b : α} {rest rest' : List Char}, may rest → may rest' → write a ++ rest = write b ++ rest' → a = b ∧ rest = rest'

theorem append_stop_inj {xs ys rest rest' : List Char} {stop : Char} (left : stop ∉ xs) (right : stop ∉ ys)
    (same : xs ++ stop :: rest = ys ++ stop :: rest') : xs = ys ∧ rest = rest' := by
  induction xs generalizing ys with
  | nil =>
    cases ys with
    | nil => exact ⟨rfl,(List.cons.inj same).2⟩
    | cons y ys =>
      obtain ⟨rfl,_⟩ := List.cons.inj same
      exact absurd List.mem_cons_self right
  | cons x xs ih =>
    cases ys with
    | nil =>
      obtain ⟨rfl,_⟩ := List.cons.inj same
      exact absurd List.mem_cons_self left
    | cons y ys =>
      obtain ⟨rfl,tails⟩ := List.cons.inj same
      obtain ⟨rfl,rests⟩ := ih (fun member => left (List.mem_cons_of_mem x member))
        (fun member => right (List.mem_cons_of_mem x member)) tails
      exact ⟨rfl,rests⟩

-- Several of them up to a stop that none of them begins with.
theorem Delimited.flatMap_until {α : Type} {write : α → List Char} {may : List Char → Prop} {stop : List Char}
    (delimited : Delimited write may) (begins : ∀ a rest rest', write a ++ rest ≠ stop ++ rest')
    (follows : ∀ a rest, may (write a ++ rest)) (stops : ∀ rest, may (stop ++ rest)) {as bs : List α}
    {rest rest' : List Char} (same : as.flatMap write ++ (stop ++ rest) = bs.flatMap write ++ (stop ++ rest')) :
    as = bs ∧ rest = rest' := by
  have may_rest (cs : List α) (rest : List Char) : may (cs.flatMap write ++ (stop ++ rest)) := by
    cases cs with
    | nil => exact stops rest
    | cons c cs =>
      rw [List.flatMap_cons,List.append_assoc]
      exact follows c _
  induction as generalizing bs with
  | nil =>
    cases bs with
    | nil => exact ⟨rfl,List.append_cancel_left same⟩
    | cons b bs =>
      rw [List.flatMap_cons,List.append_assoc] at same
      exact absurd same.symm (begins b _ _)
  | cons a as ih =>
    rw [List.flatMap_cons,List.append_assoc] at same
    cases bs with
    | nil => exact absurd same (begins a _ _)
    | cons b bs =>
      rw [List.flatMap_cons,List.append_assoc] at same
      obtain ⟨rfl,tails⟩ := delimited (may_rest as rest) (may_rest bs rest') same
      obtain ⟨rfl,rests⟩ := ih tails
      exact ⟨rfl,rests⟩

theorem Delimited.flatMap {α : Type} {write : α → List Char} {may : List Char → Prop} {stop : Char}
    (delimited : Delimited write may) (begins : ∀ a rest, (write a ++ rest).head? ≠ some stop)
    (follows : ∀ a rest, may (write a ++ rest)) (stops : ∀ rest, may (stop :: rest)) {as bs : List α}
    {rest rest' : List Char} (same : as.flatMap write ++ stop :: rest = bs.flatMap write ++ stop :: rest') :
    as = bs ∧ rest = rest' := by
  have other (a : α) (rest rest' : List Char) : write a ++ rest ≠ [stop] ++ rest' :=
    fun whole => begins a rest (by rw [whole]; rfl)
  exact delimited.flatMap_until other follows stops same

section Escapes

variable {printable : Char → Bool} {c : Char} {rest : List Char}

def readHex (width : Nat) (s : List Char) : Option (Char × List Char) :=
  match readDigits 16 0x10FFFF 0 (s.take width) with
  | .ok n => some (Char.ofNat n,s.drop width)
  | .error _ => none

def readEscape : List Char → Option (Char × List Char)
  | 'a' :: rest => some (Char.ofNat 7,rest)
  | 'b' :: rest => some (Char.ofNat 8,rest)
  | 't' :: rest => some (Char.ofNat 9,rest)
  | 'n' :: rest => some (Char.ofNat 10,rest)
  | 'v' :: rest => some (Char.ofNat 11,rest)
  | 'f' :: rest => some (Char.ofNat 12,rest)
  | 'r' :: rest => some (Char.ofNat 13,rest)
  | 'x' :: rest => readHex 2 rest
  | 'u' :: rest => readHex 4 rest
  | 'U' :: rest => readHex 8 rest
  | c :: rest => some (c,rest)
  | [] => none

def readQuoted : List Char → Option (Char × List Char)
  | [] => none
  | c :: rest => if c = '\\' then readEscape rest else some (c,rest)

theorem readHex_hexLower {width : Nat} (wide : 0 < width) (fits : c.toNat < 16 ^ width) :
    readHex width ((hexLower width c.toNat).toList ++ rest) = some (c,rest) := by
  have size := length_hexLower wide fits
  have valid : c.toNat ≤ 0x10FFFF := by
    have bound : c.toNat < 0xD800 ∨ 0xDFFF < c.toNat ∧ c.toNat < 0x110000 := c.valid
    omega
  rw [readHex,List.take_left' size,List.drop_left' size,readDigits_hexLower valid]
  simp only [Char.ofNat_toNat]

theorem readQuoted_backslash {s : List Char} : readQuoted ('\\' :: s) = readEscape s := by
  rw [readQuoted,if_pos rfl]

theorem readQuoted_numericEscape : readQuoted (numericEscape c ++ rest) = some (c,rest) := by
  have bound : c.toNat < 0xD800 ∨ 0xDFFF < c.toNat ∧ c.toNat < 0x110000 := c.valid
  unfold numericEscape
  dsimp only
  split
  · rw [List.cons_append,List.cons_append,readQuoted_backslash,readEscape]
    exact readHex_hexLower (by decide) (by omega)
  · split
    · rename_i basic
      rw [List.cons_append,List.cons_append,readQuoted_backslash,readEscape]
      exact readHex_hexLower (by decide) basic
    · rw [List.cons_append,List.cons_append,readQuoted_backslash,readEscape]
      exact readHex_hexLower (by decide) (by omega)

theorem readQuoted_shortEscape {e : Char} (short : shortEscape? c = some e) :
    readQuoted ('\\' :: e :: rest) = some (c,rest) := by
  have known {n : Nat} (code : c.toNat = n) : c = Char.ofNat n := by rw [← code,Char.ofNat_toNat]
  rw [readQuoted_backslash]
  unfold shortEscape? at short
  split at short
  case h_8 => cases short
  all_goals
    rename_i code
    cases short
    rw [known code]
    rfl

theorem readQuoted_escapeChar : readQuoted (escapeChar printable '"' c ++ rest) = some (c,rest) := by
  unfold escapeChar
  split
  · rename_i mark
    obtain rfl | rfl := mark
    · rfl
    · rfl
  · rename_i plain
    split
    · exact if_neg fun same => plain (.inr same)
    · split
      · rename_i e short
        exact readQuoted_shortEscape short
      · exact readQuoted_numericEscape

-- The mark that ends a quoted text does not begin a character.
theorem head?_escapeChar_ne : (escapeChar printable '"' c ++ rest).head? ≠ some '"' := by
  unfold escapeChar
  split
  · simp
  · rename_i plain
    split
    · intro same
      exact plain (.inl (Option.some.inj same))
    · split
      · simp
      · unfold numericEscape
        dsimp only
        split
        · simp
        · split
          · simp
          · simp

theorem escapeChar_delimited : Delimited (escapeChar printable '"') fun _ => True := by
  intro a b rest rest' _ _ same
  have read := congrArg readQuoted same
  rw [readQuoted_escapeChar,readQuoted_escapeChar] at read
  cases read
  exact ⟨rfl,rfl⟩

theorem quoteWith_delimited : Delimited (fun cs => quoteWith printable '"' (charPieces cs)) fun _ => True := by
  intro as bs rest rest' _ _ same
  have split (cs : List Char) (rest : List Char) :
      quoteWith printable '"' (charPieces cs) ++ rest = '"' :: (cs.flatMap (escapeChar printable '"') ++ '"' :: rest) := by
    simp [quoteWith,charPieces,List.flatMap_map,escapePiece]
  dsimp only at same
  rw [split,split] at same
  exact escapeChar_delimited.flatMap (fun _ _ => head?_escapeChar_ne) (fun _ _ => trivial) (fun _ => trivial)
    (List.cons.inj same).2

theorem quote_injective : Function.Injective quote := by
  intro s t same
  have chars := congrArg String.toList same
  simp only [quote,quoteChars,quotePieces,String.toList_ofList] at chars
  exact String.toList_inj.mp (quoteWith_delimited trivial trivial (congrArg (· ++ []) chars)).1

end Escapes

end LexPattern.Text
