import Mathlib
import LexPattern.Text.Digits
import LexPattern.Text.Blank

namespace LexPattern.Text

def hexDigits (n : Nat) : List Char := (Nat.toDigits 16 n).map Char.toUpper

theorem hexDigits_step {n : Nat} (large : 16 ≤ n) :
    hexDigits n = hexDigits (n / 16) ++ [(Nat.digitChar (n % 16)).toUpper] := by
  rw [hexDigits,Nat.toDigits_of_base_le (by decide) large,List.map_append]
  rfl

theorem hexDigits_small {n : Nat} (small : n < 16) : hexDigits n = [(Nat.digitChar n).toUpper] := by
  rw [hexDigits,Nat.toDigits_of_lt_base small]
  rfl

theorem hexDigits_ne_nil {n : Nat} : hexDigits n ≠ [] := by
  simp [hexDigits,Nat.toDigits_ne_nil]

theorem toList_hexUpper (n : Nat) : (hexUpper 1 n).toList = hexDigits n := by
  have wide : 1 ≤ (hexDigits n).length := List.length_pos_iff.mpr hexDigits_ne_nil
  have padded : (hexDigits n).leftpad 1 '0' = hexDigits n := by
    simp [List.leftpad,Nat.sub_eq_zero_of_le wide]
  rw [hexUpper,String.toList_ofList]
  exact padded

theorem digit_of_mem_hexDigits {n : Nat} {c : Char} (member : c ∈ hexDigits n) :
    ∃ d < 16, c = (Nat.digitChar d).toUpper := by
  induction n using Nat.strong_induction_on with
  | _ n ih =>
    obtain small | large := Nat.lt_or_ge n 16
    · rw [hexDigits_small small] at member
      exact ⟨n,small,List.mem_singleton.mp member⟩
    · rw [hexDigits_step large] at member
      obtain earlier | last := List.mem_append.mp member
      · exact ih (n / 16) (by omega) earlier
      · exact ⟨n % 16,by omega,List.mem_singleton.mp last⟩

theorem hexDigits_solid {n : Nat} {c : Char} (member : c ∈ hexDigits n) : c ≠ '}' ∧ isBlank c = false := by
  obtain ⟨d,small,rfl⟩ := digit_of_mem_hexDigits member
  clear member
  revert d
  decide

theorem dash_not_mem_hexDigits {n : Nat} : '-' ∉ hexDigits n := by
  intro member
  obtain ⟨d,small,same⟩ := digit_of_mem_hexDigits member
  clear member
  revert d
  decide

theorem digitValue?_digitChar : ∀ d < 16, digitValue? (Nat.digitChar d).toUpper = some d := by decide

theorem readDigits_le {base bound value n : Nat} {cs : List Char} (start : value ≤ bound)
    (read : readDigits base bound value cs = .ok n) : n ≤ bound := by
  induction cs generalizing value with
  | nil =>
    cases read
    exact start
  | cons c cs ih =>
    rw [readDigits] at read
    split at read
    · cases read
    · split at read
      · cases read
      · split at read
        · cases read
        · rename_i within
          exact ih (Nat.not_lt.mp within) read

theorem readNumeral_le {base bound n : Nat} {cs : List Char} (read : readNumeral base bound cs = .ok n) : n ≤ bound := by
  unfold readNumeral at read
  split at read
  · cases read
  · exact readDigits_le (Nat.zero_le bound) read

theorem readDigits_append {base bound value : Nat} {xs ys : List Char} {v : Nat}
    (first : readDigits base bound value xs = .ok v) :
    readDigits base bound value (xs ++ ys) = readDigits base bound v ys := by
  induction xs generalizing value with
  | nil =>
    cases first
    rfl
  | cons x xs ih =>
    rw [List.cons_append,readDigits]
    rw [readDigits] at first
    split at first
    · cases first
    · rename_i d found
      split at first
      · cases first
      · rename_i digit
        split at first
        · cases first
        · rename_i fits
          simp only [if_neg digit,if_neg fits]
          exact ih first

-- The digits of a number have its value, in whatever way the single digits are written.
theorem readDigits_toDigits {base n bound : Nat} {form : Char → Char} (proper : 1 < base)
    (values : ∀ d < base, digitValue? (form (Nat.digitChar d)) = some d) (fits : n ≤ bound) :
    readDigits base bound 0 ((Nat.toDigits base n).map form) = .ok n := by
  induction n using Nat.strong_induction_on with
  | _ n ih =>
    have last (value d : Nat) (digit : d < base) (within : value * base + d ≤ bound) :
        readDigits base bound value [form (Nat.digitChar d)] = .ok (value * base + d) := by
      simp [readDigits,values d digit,Nat.not_le.mpr digit,Nat.not_lt.mpr within]
    obtain small | large := Nat.lt_or_ge n base
    · have read := last 0 n small (by omega)
      rw [Nat.zero_mul,Nat.zero_add] at read
      rw [Nat.toDigits_of_lt_base small]
      exact read
    · have whole : n / base * base + n % base = n := Nat.div_add_mod' n base
      have front := ih (n / base) (Nat.div_lt_self (by omega) proper) (Nat.le_trans (Nat.div_le_self n base) fits)
      have read := last (n / base) (n % base) (Nat.mod_lt n (by omega)) (by omega)
      rw [Nat.toDigits_of_base_le proper large,List.map_append,readDigits_append front]
      rw [whole] at read
      exact read

theorem readDigits_hexDigits {n bound : Nat} (fits : n ≤ bound) : readDigits 16 bound 0 (hexDigits n) = .ok n :=
  readDigits_toDigits (by decide) digitValue?_digitChar fits

theorem hexDigits_injective : Function.Injective hexDigits := by
  intro m n same
  have first : readDigits 16 (max m n) 0 (hexDigits m) = .ok m := readDigits_hexDigits (Nat.le_max_left m n)
  have second : readDigits 16 (max m n) 0 (hexDigits n) = .ok n := readDigits_hexDigits (Nat.le_max_right m n)
  rw [same,second] at first
  cases first
  rfl

-- Zeros in front change nothing.
theorem readDigits_hexLower {width n bound : Nat} (fits : n ≤ bound) :
    readDigits 16 bound 0 (hexLower width n).toList = .ok n := by
  have values : ∀ d < 16, digitValue? (id (Nat.digitChar d)) = some d := by decide
  have digits := readDigits_toDigits (by decide) values fits
  have zeros (count : Nat) : readDigits 16 bound 0 (List.replicate count '0') = .ok 0 := by
    induction count with
    | zero => rfl
    | succ count ih =>
      rw [List.replicate_succ,readDigits]
      exact ih
  rw [List.map_id] at digits
  rw [hexLower,String.toList_ofList,List.leftpad,readDigits_append (zeros _)]
  exact digits

theorem length_hexLower {width n : Nat} (wide : 0 < width) (fits : n < 16 ^ width) :
    (hexLower width n).toList.length = width := by
  rw [hexLower,String.toList_ofList,List.length_leftpad]
  exact Nat.max_eq_left ((Nat.length_toDigits_le_iff (by decide) wide).mpr fits)

theorem readNumeral_hexDigits {n bound : Nat} (fits : n ≤ bound) : readNumeral 16 bound (hexDigits n) = .ok n := by
  have some : (hexDigits n).isEmpty = false := by
    rw [List.isEmpty_eq_false_iff]
    exact hexDigits_ne_nil
  rw [readNumeral,some]
  exact readDigits_hexDigits fits

def decimalValue (cs : List Char) : Nat := Nat.ofDigits 10 (cs.map fun c => c.toNat - '0'.toNat).reverse

theorem decimalValue_cons (c : Char) (cs : List Char) :
    decimalValue (c :: cs) = (c.toNat - '0'.toNat) * 10 ^ cs.length + decimalValue cs := by
  simp only [decimalValue,List.map_cons,List.reverse_cons,Nat.ofDigits_append,Nat.ofDigits_singleton,List.length_reverse,
    List.length_map]
  ring

theorem readDigits_decimal {bound value : Nat} {cs : List Char} (digits : ∀ c ∈ cs, '0' ≤ c ∧ c ≤ '9')
    (within : value ≤ bound) : readDigits 10 bound value cs =
      if value * 10 ^ cs.length + decimalValue cs ≤ bound then .ok (value * 10 ^ cs.length + decimalValue cs)
      else .error .tooLarge := by
  induction cs generalizing value with
  | nil => simp [readDigits,decimalValue,within]
  | cons c cs ih =>
    obtain ⟨digit,others⟩ := List.forall_mem_cons.mp digits
    have small : ¬ 10 ≤ c.toNat - '0'.toNat := by
      have high : c.toNat ≤ 57 := digit.2
      have zero : '0'.toNat = 48 := rfl
      omega
    have total : value * 10 ^ (c :: cs).length + decimalValue (c :: cs) =
        (value * 10 + (c.toNat - '0'.toNat)) * 10 ^ cs.length + decimalValue cs := by
      rw [decimalValue_cons,List.length_cons]
      ring
    rw [readDigits,digitValue?,if_pos digit,total]
    simp only [if_neg small]
    split
    · rename_i large
      -- Further digits only make the number larger.
      have grows : value * 10 + (c.toNat - '0'.toNat) ≤ (value * 10 + (c.toNat - '0'.toNat)) * 10 ^ cs.length :=
        Nat.le_mul_of_pos_right _ (by positivity)
      rw [if_neg (by omega)]
    · rename_i fits
      exact ih others (Nat.not_lt.mp fits)

theorem readNumeral_decimal {bound : Nat} {cs : List Char} (visible : cs ≠ []) (digits : ∀ c ∈ cs, '0' ≤ c ∧ c ≤ '9') :
    readNumeral 10 bound cs = if decimalValue cs ≤ bound then .ok (decimalValue cs) else .error .tooLarge := by
  have some : cs.isEmpty = false := List.isEmpty_eq_false_iff.mpr visible
  have read := readDigits_decimal digits (Nat.zero_le bound)
  rw [Nat.zero_mul,Nat.zero_add] at read
  rw [readNumeral,some]
  exact read

theorem fields_of_solid {cs : List Char} (some : cs ≠ []) (solid : ∀ c ∈ cs, isBlank c = false) : fields cs = [cs] := by
  have read (cs field : List Char) (solid : ∀ c ∈ cs, isBlank c = false) (some : field.reverse ++ cs ≠ []) :
      fieldsFrom field cs = [field.reverse ++ cs] := by
    induction cs generalizing field with
    | nil =>
      have started : field.isEmpty = false := by simpa using some
      rw [fieldsFrom,started]
      simp
    | cons c cs ih =>
      have longer := ih (c :: field) (fun d member => solid d (List.mem_cons_of_mem c member)) (by simp)
      rw [fieldsFrom,solid c List.mem_cons_self]
      simpa using longer
  exact read cs [] solid some

end LexPattern.Text
