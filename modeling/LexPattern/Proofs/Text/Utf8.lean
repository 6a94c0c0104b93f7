import Mathlib
import LexPattern.Compiler.Pipeline
import LexPattern.Proofs.Core.Meaning

namespace LexPattern.CodePoint

open LexPattern.Core (isScalar_ofChar)

theorem toChar_ofChar (x : Char) : toChar (ofChar x) = x := by
  have value : (ofChar x).toNat = x.toNat := rfl
  rw [toChar,if_pos (isScalar_ofChar x),value,Char.ofNat_toNat]

theorem ofChar_injective : Function.Injective ofChar := by
  intro x y same
  rw [← toChar_ofChar x,same,toChar_ofChar]

theorem exists_ofChar {c : CodePoint} (scalar : c.isScalar = true) : ∃ x : Char, c = ofChar x := by
  obtain ⟨least,greatest,outside⟩ := isScalar_iff.mp scalar
  have valid : c.toNat.isValidChar := by
    unfold Nat.isValidChar
    omega
  refine ⟨Char.ofNat c.toNat,?_⟩
  rw [ofChar,Char.toNat_ofNat,if_pos valid]
  exact (Int.toNat_of_nonneg least).symm

end LexPattern.CodePoint

namespace LexPattern.Text

theorem size_utf8Encode_singleton (c : Char) : [c].utf8Encode.size = c.utf8Size := by
  rw [List.utf8Encode_singleton,List.size_toByteArray,String.length_utf8EncodeChar]

theorem piecesFrom_utf8Encode (front cs : List Char) :
    piecesFrom (front.utf8Encode ++ cs.utf8Encode) front.utf8Encode.size = charPieces cs := by
  induction cs generalizing front with
  | nil =>
    rw [piecesFrom]
    simp [charPieces]
  | cons c cs ih =>
    have further := ih (front ++ [c])
    rw [List.utf8Encode_append,ByteArray.size_append,size_utf8Encode_singleton,ByteArray.append_assoc,
      ← List.utf8Encode_cons] at further
    have size : (c :: cs).utf8Encode.size = c.utf8Size + cs.utf8Encode.size := by
      rw [List.utf8Encode_cons,ByteArray.size_append,size_utf8Encode_singleton]
    have inside : front.utf8Encode.size < (front.utf8Encode ++ (c :: cs).utf8Encode).size := by
      have positive := Char.utf8Size_pos c
      rw [ByteArray.size_append]
      omega
    have decoded : (front.utf8Encode ++ (c :: cs).utf8Encode).utf8DecodeChar? front.utf8Encode.size = some c := by
      rw [ByteArray.utf8DecodeChar?_eq_utf8DecodeChar?_extract,
        ByteArray.extract_append_eq_right rfl ByteArray.size_append,List.utf8DecodeChar?_utf8Encode_cons]
    rw [piecesFrom,dif_pos inside,decoded]
    simp only [further]
    rfl

theorem pieces_toUTF8 (s : String) : pieces s.toUTF8 = charPieces s.toList := by
  have read := piecesFrom_utf8Encode [] s.toList
  rw [List.utf8Encode_nil,ByteArray.empty_append,String.utf8Encode_toList] at read
  exact read

theorem wellFormed_charPieces (cs : List Char) : wellFormed (charPieces cs) = .ok cs := by
  induction cs with
  | nil => rfl
  | cons c cs ih =>
    have tail : wellFormed (cs.map .char) = .ok cs := ih
    simp [charPieces,wellFormed,tail]

end LexPattern.Text

namespace LexPattern.Surface

theorem parse_toUTF8 (limit : Int) (s : String) : parse limit s.toUTF8 = ofChars (inForce defaultDepth limit) s.toList := by
  unfold parse
  rw [Text.pieces_toUTF8,Text.wellFormed_charPieces]

end LexPattern.Surface

namespace LexPattern

theorem inputCodes_scalar (input : ByteArray) : ∀ x ∈ inputCodes input, x.isScalar = true := by
  intro x member
  obtain ⟨piece,_,rfl⟩ := List.mem_map.mp member
  exact Core.isScalar_ofChar piece.toChar

-- Scalars are matched as they are when they are given as text.
theorem inputCodes_text {w : List CodePoint} (scalar : ∀ x ∈ w, x.isScalar = true) :
    inputCodes (CodePoint.text w).toUTF8 = w := by
  rw [inputCodes,Text.pieces_toUTF8,Text.charPieces,CodePoint.text,String.toList_ofList,List.map_map,List.map_map]
  conv_rhs => rw [← List.map_id w]
  refine List.map_congr_left fun c member => ?_
  obtain ⟨x,rfl⟩ := CodePoint.exists_ofChar (scalar c member)
  exact congrArg CodePoint.ofChar (CodePoint.toChar_ofChar x)

end LexPattern
