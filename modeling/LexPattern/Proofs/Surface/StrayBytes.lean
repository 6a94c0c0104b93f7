import Mathlib
import LexPattern.Proofs.Surface.Nesting

namespace LexPattern.Text

variable {bytes rest : ByteArray} {cs : List Char} {c : Char} {b : UInt8} {ps : List Piece} {front : String} {i n : Nat}

-- What was read from bytes: their characters, or characters with bytes behind them that begin with no character.
def ReadFrom (bytes : ByteArray) : Except (List Char × UInt8) (List Char) → Prop
  | .ok cs => bytes = cs.utf8Encode
  | .error (cs,b) => ∃ rest : ByteArray, bytes = cs.utf8Encode ++ rest ∧ rest.utf8DecodeChar? 0 = none ∧ rest[0]? = some b

theorem ReadFrom.cons (read : ReadFrom bytes (wellFormed ps)) :
    ReadFrom ([c].utf8Encode ++ bytes) (wellFormed (.char c :: ps)) := by
  rw [wellFormed]
  cases outcome : wellFormed ps with
  | ok cs =>
    rw [outcome] at read
    change _ = (c :: cs).utf8Encode
    rw [List.utf8Encode_cons (l := cs),read]
  | error found =>
    obtain ⟨cs,b⟩ := found
    rw [outcome] at read
    obtain ⟨rest,same,stops,first⟩ := read
    refine ⟨rest,?_,stops,first⟩
    rw [same,List.utf8Encode_cons (l := cs),ByteArray.append_assoc]

theorem extract_of_decoded (decoded : bytes.utf8DecodeChar? i = some c) :
    bytes.extract i bytes.size = [c].utf8Encode ++ bytes.extract (i + c.utf8Size) bytes.size := by
  rw [ByteArray.utf8DecodeChar?_eq_utf8DecodeChar?_extract] at decoded
  obtain ⟨rest,same⟩ := ByteArray.exists_of_utf8DecodeChar?_eq_some decoded
  rw [← List.utf8Encode_singleton] at same
  have behind : bytes.extract (i + c.utf8Size) bytes.size = rest := by
    have cut := congrArg (fun part => part.extract c.utf8Size part.size) same
    simp only [ByteArray.extract_extract,ByteArray.size_extract] at cut
    rw [ByteArray.extract_append_eq_right (size_utf8Encode_singleton c).symm ByteArray.size_append] at cut
    rw [← cut]
    congr 1
    omega
  rw [same,behind]

theorem piecesFrom_read (bytes : ByteArray) (i : Nat) :
    ReadFrom (bytes.extract i bytes.size) (wellFormed (piecesFrom bytes i)) := by
  fun_induction piecesFrom bytes i with
  | case1 i inside c decoded ih =>
    rw [extract_of_decoded decoded]
    exact ih.cons
  | case2 i inside stops ih =>
    refine ⟨bytes.extract i bytes.size,?_,?_,?_⟩
    · rw [List.utf8Encode_nil,ByteArray.empty_append]
    · rw [← ByteArray.utf8DecodeChar?_eq_utf8DecodeChar?_extract]
      exact stops
    · have nonempty : 0 < (bytes.extract i bytes.size).size := by
        rw [ByteArray.size_extract]
        omega
      rw [getElem?_pos _ 0 nonempty,ByteArray.getElem_extract]
      rfl
  | case3 i outside =>
    have nothing : bytes.extract i bytes.size = ByteArray.empty := by
      rw [ByteArray.extract_eq_empty_iff]
      omega
    rw [nothing]
    exact List.utf8Encode_nil.symm

theorem pieces_read (bytes : ByteArray) : ReadFrom bytes (wellFormed (pieces bytes)) := by
  have read := piecesFrom_read bytes 0
  rwa [ByteArray.extract_zero_size] at read

-- Behind a text, what is UTF-8 with the text is UTF-8 without it.
theorem isValidUTF8_append_iff (cs : List Char) : (cs.utf8Encode ++ rest).IsValidUTF8 ↔ rest.IsValidUTF8 := by
  induction cs with
  | nil => rw [List.utf8Encode_nil,ByteArray.empty_append]
  | cons c cs ih =>
    rw [List.utf8Encode_cons,ByteArray.append_assoc,ByteArray.isValidUTF8_utf8Encode_singleton_append_iff,ih]

theorem eq_empty_of_stops {part : ByteArray} (stops : (part ++ rest).utf8DecodeChar? 0 = none) (valid : part.IsValidUTF8) :
    part = ByteArray.empty := by
  obtain ⟨cs,rfl⟩ := valid
  cases cs with
  | nil => exact List.utf8Encode_nil
  | cons c cs =>
    have begins := ByteArray.utf8DecodeChar?_append_eq_some (List.utf8DecodeChar?_utf8Encode_cons (l := cs) (c := c)) rest
    rw [begins] at stops
    cases stops

theorem ReadFrom.isValidUTF8_iff {outcome : Except (List Char × UInt8) (List Char)} (read : ReadFrom bytes outcome) :
    bytes.IsValidUTF8 ↔ ∃ cs, outcome = .ok cs := by
  cases outcome with
  | ok cs => exact iff_of_true ⟨cs,read⟩ ⟨cs,rfl⟩
  | error found =>
    obtain ⟨cs,b⟩ := found
    obtain ⟨rest,rfl,stops,first⟩ := read
    refine iff_of_false (fun valid => ?_) (by simp)
    rw [isValidUTF8_append_iff] at valid
    rw [← ByteArray.append_empty (b := rest)] at stops
    rw [eq_empty_of_stops stops valid] at first
    cases first

-- The bytes begin with the text, and with no longer one.
structure Longest (bytes : ByteArray) (front : String) : Prop where
  begins : ∃ rest, bytes = front.toUTF8 ++ rest
  longest : ∀ n ≤ bytes.size, (bytes.extract 0 n).IsValidUTF8 → n ≤ front.utf8ByteSize

theorem longest_of_stops (stops : rest.utf8DecodeChar? 0 = none) : Longest (front.toUTF8 ++ rest) front := by
  refine ⟨⟨rest,rfl⟩,fun n within valid => ?_⟩
  by_contra beyond
  have size : front.toUTF8.size = front.utf8ByteSize := rfl
  rw [ByteArray.size_append] at within
  -- A longer text would have the first bytes of the rest for its end.
  have split : (front.toUTF8 ++ rest).extract 0 n = front.toList.utf8Encode ++ rest.extract 0 (n - front.utf8ByteSize) := by
    have all : front.toUTF8.extract 0 n = front.toUTF8 := by
      rw [← Nat.max_eq_left (show front.toUTF8.size ≤ n by omega),ByteArray.extract_zero_max_size]
    rw [ByteArray.extract_append,String.utf8Encode_toList,all,Nat.zero_sub]
    rfl
  rw [split,isValidUTF8_append_iff] at valid
  have whole : rest = rest.extract 0 (n - front.utf8ByteSize) ++ rest.extract (n - front.utf8ByteSize) rest.size := by
    rw [← ByteArray.extract_eq_extract_append_extract _ (Nat.zero_le _) (by omega),ByteArray.extract_zero_size]
  rw [whole] at stops
  have nothing := congrArg ByteArray.size (eq_empty_of_stops stops valid)
  rw [ByteArray.size_extract,ByteArray.size_empty] at nothing
  omega

theorem getElem?_behind (front : ByteArray) (first : rest[0]? = some b) : (front ++ rest)[front.size]? = some b := by
  obtain ⟨nonempty,value⟩ := getElem?_eq_some_iff.mp first
  have inside : front.size < (front ++ rest).size := by
    rw [ByteArray.size_append]
    omega
  refine getElem?_eq_some_iff.mpr ⟨inside,?_⟩
  rw [ByteArray.getElem_append_right (Nat.le_refl _)]
  simpa using value

def StandsAt (bytes : ByteArray) (c : Char) (i : Nat) : Prop := bytes.extract i (i + c.utf8Size) = [c].utf8Encode

theorem StandsAt.decoded (stands : StandsAt bytes c i) : bytes.utf8DecodeChar? i = some c := by
  have size := congrArg ByteArray.size stands
  rw [ByteArray.size_extract,size_utf8Encode_singleton] at size
  have positive := c.utf8Size_pos
  have within : i + c.utf8Size ≤ bytes.size := by omega
  have split := ByteArray.extract_eq_extract_append_extract (a := bytes) (i + c.utf8Size) (Nat.le_add_right i c.utf8Size)
    within
  rw [ByteArray.utf8DecodeChar?_eq_utf8DecodeChar?_extract,split,stands,List.utf8DecodeChar?_utf8Encode_singleton_append]

-- Where a character begins inside a text, it is one of the text.
theorem within_of_decoded (decoded : (front.toUTF8 ++ rest).utf8DecodeChar? i = some c) (inside : i < front.toUTF8.size) :
    i + c.utf8Size ≤ front.toUTF8.size := by
  have first := ByteArray.isUTF8FirstByte_of_isSome_utf8DecodeChar? (Option.isSome_of_eq_some decoded)
  rw [ByteArray.getElem_append_left inside] at first
  have place : String.Pos.Raw.IsValid front ⟨i⟩ := String.Pos.Raw.isValid_iff_isUTF8FirstByte.mpr (.inr ⟨inside,first⟩)
  obtain ⟨cs,same⟩ : (front.toUTF8.extract i front.toUTF8.size).IsValidUTF8 :=
    (String.Pos.Raw.isValid_iff_isValidUTF8_extract_utf8ByteSize.mp place).2
  have size := congrArg ByteArray.size same
  rw [ByteArray.size_extract,Nat.min_self] at size
  cases cs with
  | nil =>
    rw [List.utf8Encode_nil,ByteArray.size_empty] at size
    omega
  | cons d cs =>
    have begins : (front.toUTF8 ++ rest).utf8DecodeChar? i = some d := by
      have found : front.toUTF8.utf8DecodeChar? i = some d := by
        rw [ByteArray.utf8DecodeChar?_eq_utf8DecodeChar?_extract,same,List.utf8DecodeChar?_utf8Encode_cons]
      exact ByteArray.utf8DecodeChar?_append_eq_some found rest
    rw [begins] at decoded
    cases decoded
    rw [List.utf8Encode_cons,ByteArray.size_append,size_utf8Encode_singleton] at size
    omega

-- The byte behind the longest text is no part of a character.
theorem StandsAt.apart (stands : StandsAt (front.toUTF8 ++ rest) c i) (stops : rest.utf8DecodeChar? 0 = none) :
    i + c.utf8Size ≤ front.toUTF8.size ∨ front.toUTF8.size < i := by
  obtain inside | rfl | behind := Nat.lt_trichotomy i front.toUTF8.size
  · exact .inl (within_of_decoded stands.decoded inside)
  · have decoded := stands.decoded
    rw [ByteArray.utf8DecodeChar?_eq_utf8DecodeChar?_extract,ByteArray.extract_append_eq_right rfl ByteArray.size_append,
      stops] at decoded
    cases decoded
  · exact .inr behind

end LexPattern.Text

namespace LexPattern.Surface

open Text (Position Longest StandsAt)

variable {limit : Nat} {pattern : ByteArray} {pos : Position} {b : UInt8} {cs : List Char}

theorem ofChars_ne_invalidByte : ofChars limit cs ≠ .error ⟨pos,.invalidByte b⟩ := by
  intro failed
  obtain free | ⟨place,deep⟩ := ofTokens_limited limit (Token.lex cs) (Position.start.advance cs)
  · exact Builder.runFree_cause (free.symm.trans failed)
  · cases deep.symm.trans failed

theorem parse_eq_invalidByte_iff {limit : Int} : parse limit pattern = .error ⟨pos,.invalidByte b⟩ ↔
    ∃ cs, Text.wellFormed (Text.pieces pattern) = .error (cs,b) ∧ pos = Position.start.advance cs := by
  unfold parse
  cases read : Text.wellFormed (Text.pieces pattern) with
  | ok cs => simp [ofChars_ne_invalidByte]
  | error found =>
    obtain ⟨cs,stray⟩ := found
    simp [eq_comm,and_comm]

-- A pattern is refused for a byte exactly when it is not UTF-8, whatever else is wrong with it. The byte stands behind the
-- longest text that the pattern begins with, and is not part of any character, U+FFFD among them.
theorem parse_reports_stray (limit : Int) (pattern : ByteArray) :
    ((∃ pos b, parse limit pattern = .error ⟨pos,.invalidByte b⟩) ↔ ¬ pattern.IsValidUTF8) ∧
      ∀ pos b, parse limit pattern = .error ⟨pos,.invalidByte b⟩ → ∃ front : String,
        Longest pattern front ∧ pos = Position.start.advance front.toList ∧ pattern[pos.offset]? = some b ∧
        ∀ c i, StandsAt pattern c i → i + c.utf8Size ≤ pos.offset ∨ pos.offset < i := by
  simp only [parse_eq_invalidByte_iff]
  have read := Text.pieces_read pattern
  constructor
  · rw [read.isValidUTF8_iff]
    cases Text.wellFormed (Text.pieces pattern) with
    | ok cs => simp
    | error found => simp [Prod.ext_iff]
  · rintro pos b ⟨cs,stray,rfl⟩
    rw [stray] at read
    obtain ⟨rest,same,stops,first⟩ := read
    have front : pattern = (String.ofList cs).toUTF8 ++ rest := same
    have offset : (Position.start.advance cs).offset = (String.ofList cs).toUTF8.size := by
      rw [Text.start_advance]
      rfl
    refine ⟨String.ofList cs,?_,?_,?_,fun c i stands => ?_⟩
    · rw [front]
      exact Text.longest_of_stops stops
    · rw [String.toList_ofList]
    · rw [offset,front]
      exact Text.getElem?_behind _ first
    · rw [front] at stands
      rw [offset]
      exact stands.apart stops

example : parse defaultDepth ("(\n\uFFFD".toUTF8 ++ ⟨#[0xE2,0x82]⟩) = .error ⟨⟨5,2,2⟩,.invalidByte 0xE2⟩ := by
  cbv

end LexPattern.Surface
