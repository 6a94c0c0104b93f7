import Mathlib
import LexPattern.Name.Hangul
import LexPattern.Proofs.Text.Quoted

namespace LexPattern.Name

theorem after?_eq_some_iff {front : String} {cs rest : List Char} : after? front cs = some rest ↔ cs = front.toList ++ rest := by
  unfold after?
  split
  · rename_i starts
    have whole := List.prefix_iff_eq_append.mp (List.isPrefixOf_iff_prefix.mp starts)
    constructor
    · intro found
      cases found
      exact whole.symm
    · intro same
      rw [same,List.drop_left]
  · rename_i other
    simp only [reduceCtorEq,false_iff]
    intro same
    exact other (List.isPrefixOf_iff_prefix.mpr ⟨rest,same.symm⟩)

namespace Hangul

@[ext]
structure Parts where
  lead : Fin leads.length
  vowel : Fin vowels.length
  tail : Fin tails.length

namespace Parts

def name (p : Parts) : List Char := leads[p.lead].toList ++ vowels[p.vowel].toList ++ tails[p.tail].toList

def code (p : Parts) : CodePoint := 0xAC00 + (p.lead * 21 + p.vowel) * 28 + p.tail

theorem code_eq (p : Parts) : p.code = compose p.lead p.vowel p.tail := rfl

theorem code_injective : Function.Injective code := by
  rintro ⟨l,v,t⟩ ⟨l',v',t'⟩ same
  have vBound : v.val < 21 := v.isLt
  have vBound' : v'.val < 21 := v'.isLt
  have tBound : t.val < 28 := t.isLt
  have tBound' : t'.val < 28 := t'.isLt
  change (0xAC00 : Int) + (l * 21 + v) * 28 + t = 0xAC00 + (l' * 21 + v') * 28 + t' at same
  refine Parts.ext (Fin.ext ?_) (Fin.ext ?_) (Fin.ext ?_) <;> dsimp only <;> omega

end Parts

def isVowelLetter (c : Char) : Bool := ['A','E','I','O','U','W','Y'].contains c

theorem leads_spelled : ∀ lead ∈ leads, ∀ c ∈ lead.toList, (!isVowelLetter c) = true := by simp [leads,isVowelLetter]

theorem vowels_spelled : ∀ vowel ∈ vowels, vowel.toList ≠ [] ∧ ∀ c ∈ vowel.toList, isVowelLetter c = true := by
  simp [vowels,isVowelLetter]

theorem tails_spelled : ∀ tail ∈ tails, ∀ c ∈ tail.toList, (!isVowelLetter c) = true := by simp [tails,isVowelLetter]

-- The text does not go on with such a letter.
def Stops (letter : Char → Bool) (rest : List Char) : Prop := ∀ c ∈ rest.head?, letter c = false

-- Different words of the same letters tell where they end, as long as no such letter follows.
theorem words_delimited {words : List String} {letter : Char → Bool} (distinct : words.Nodup)
    (spelled : ∀ word ∈ words, ∀ c ∈ word.toList, letter c = true) :
    Text.Delimited (fun i : Fin words.length => words[i].toList) (Stops letter) := by
  have read : ∀ (i : Fin words.length) {rest : List Char}, Stops letter rest →
      (words[i].toList ++ rest).takeWhile letter = words[i].toList := by
    intro i rest stops
    rw [List.takeWhile_append_of_pos (spelled words[i] (List.getElem_mem i.isLt))]
    cases rest with
    | nil => simp
    | cons c rest => simp [stops c rfl]
  intro i j rest rest' stops stops' same
  have spellings : words[i].toList = words[j].toList := by rw [← read i stops,same,read j stops']
  have places : i = j := Fin.ext (distinct.getElem_inj_iff.mp (String.toList_inj.mp spellings))
  subst places
  exact ⟨rfl,List.append_cancel_left same⟩

theorem vowel_starts (v : Fin vowels.length) (rest : List Char) : Stops (!isVowelLetter ·) (vowels[v].toList ++ rest) := by
  obtain ⟨nonempty,spelled⟩ := vowels_spelled vowels[v] (List.getElem_mem v.isLt)
  obtain ⟨c,cs,shape⟩ := List.exists_cons_of_ne_nil nonempty
  rw [shape] at spelled ⊢
  intro first found
  cases found
  simpa using spelled c List.mem_cons_self

theorem tail_stops (t : Fin tails.length) : Stops isVowelLetter tails[t].toList := by
  intro c found
  simpa using tails_spelled tails[t] (List.getElem_mem t.isLt) c (List.mem_of_head? found)

theorem Parts.name_injective : Function.Injective Parts.name := by
  rintro ⟨l,v,t⟩ ⟨l',v',t'⟩ same
  simp only [name,List.append_assoc] at same
  obtain ⟨rfl,afterLead⟩ := words_delimited (by decide) leads_spelled (vowel_starts v _) (vowel_starts v' _) same
  obtain ⟨rfl,afterVowel⟩ := words_delimited (by decide) (fun vowel member => (vowels_spelled vowel member).2)
    (tail_stops t) (tail_stops t') afterLead
  have nothing : Stops (!isVowelLetter ·) [] := by simp [Stops]
  obtain ⟨rfl,_⟩ := words_delimited (by decide) tails_spelled nothing nothing (congrArg (· ++ []) afterVowel)
  rfl

section Search

variable {words : List String} {read? : String × Nat → Option CodePoint} {c : CodePoint}

theorem exists_of_findSome?_zipIdx (found : words.zipIdx.findSome? read? = some c) :
    ∃ i : Fin words.length, read? (words[i],i) = some c := by
  obtain ⟨⟨word,i⟩,member,hit⟩ := List.exists_of_findSome?_eq_some found
  have atI : words[i]? = some word := List.mem_zipIdx_iff_getElem?.mp member
  obtain ⟨bound,rfl⟩ := List.getElem?_eq_some_iff.mp atI
  exact ⟨⟨i,bound⟩,hit⟩

theorem findSome?_zipIdx_isSome (i : Fin words.length) (hit : (read? (words[i],i)).isSome = true) :
    (words.zipIdx.findSome? read?).isSome = true :=
  List.findSome?_isSome_iff.mpr ⟨(words[i],i),List.mem_zipIdx_iff_getElem?.mpr (by simp),hit⟩

end Search

theorem exists_parts {short : List Char} {c : CodePoint} (found : syllable? short = some c) :
    ∃ p : Parts, p.name = short ∧ p.code = c := by
  obtain ⟨l,found⟩ := exists_of_findSome?_zipIdx found
  obtain ⟨rest,afterLead,found⟩ := Option.bind_eq_some_iff.mp found
  obtain ⟨v,found⟩ := exists_of_findSome?_zipIdx found
  obtain ⟨tail,afterVowel,found⟩ := Option.bind_eq_some_iff.mp found
  obtain ⟨t,place,rfl⟩ := Option.map_eq_some_iff.mp found
  obtain ⟨bound,rfl,_⟩ := List.idxOf?_eq_some_iff.mp place
  rw [List.length_map] at bound
  refine ⟨⟨l,v,⟨t,bound⟩⟩,?_,Parts.code_eq _⟩
  rw [after?_eq_some_iff.mp afterLead,after?_eq_some_iff.mp afterVowel,List.getElem_map,← List.append_assoc]
  rfl

theorem syllable?_name_isSome (p : Parts) : (syllable? p.name).isSome = true := by
  have afterLead : after? leads[p.lead] p.name = some (vowels[p.vowel].toList ++ tails[p.tail].toList) :=
    after?_eq_some_iff.mpr (List.append_assoc _ _ _)
  have afterVowel : after? vowels[p.vowel] (vowels[p.vowel].toList ++ tails[p.tail].toList) = some tails[p.tail].toList :=
    after?_eq_some_iff.mpr rfl
  have listed : tails[p.tail].toList ∈ tails.map String.toList := List.mem_map_of_mem (List.getElem_mem p.tail.isLt)
  refine findSome?_zipIdx_isSome p.lead ?_
  dsimp only
  rw [afterLead,Option.bind_some]
  refine findSome?_zipIdx_isSome p.vowel ?_
  dsimp only
  rw [afterVowel,Option.bind_some,Option.isSome_map]
  exact List.isSome_idxOf?.mpr listed

-- A short name is read as a character exactly when parts of that character spell it. No other parts spell the name,
-- and no other parts have the character.
theorem syllable?_inverts_name :
    (∀ (short : List Char) (c : CodePoint), syllable? short = some c ↔
      ∃ p : Parts, p.name = short ∧ c = 0xAC00 + (p.lead * 21 + p.vowel) * 28 + p.tail) ∧
    Function.Injective Parts.name ∧ Function.Injective Parts.code := by
  refine ⟨fun short c => ⟨fun found => ?_,?_⟩,Parts.name_injective,Parts.code_injective⟩
  · obtain ⟨p,spelled,rfl⟩ := exists_parts found
    exact ⟨p,spelled,rfl⟩
  · rintro ⟨p,rfl,rfl⟩
    -- Some split is found first; it spells the same name, so it is this one.
    obtain ⟨c,found⟩ := Option.isSome_iff_exists.mp (syllable?_name_isSome p)
    obtain ⟨q,spelled,rfl⟩ := exists_parts found
    rw [Parts.name_injective spelled] at found
    exact found

example : syllable? ['E','O'] = some 0xC5B4 := by rfl

end Hangul

end LexPattern.Name
