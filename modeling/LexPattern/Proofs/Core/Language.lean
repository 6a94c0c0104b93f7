import Mathlib
import LexPattern.Core.Expr
import LexPattern.Proofs.CharClass

namespace LexPattern.Core

open scoped Computability

def oneOf (p : CodePoint → Prop) : Language CodePoint := {w | ∃ x, p x ∧ w = [x]}

def repeated (allowed : Nat → Prop) (l : Language CodePoint) : Language CodePoint := {w | ∃ k, allowed k ∧ w ∈ l ^ k}

def Within (least : Int) (most : Option Int) (k : Nat) : Prop := least ≤ k ∧ ∀ m ∈ most, (k : Int) ≤ m

namespace Expr

mutual

def language : Expr → Language CodePoint
  | empty => 1
  | literal codes => {codes}
  | charClass c => oneOf fun x => c.contains x = true
  | group child => child.language
  | concat children => productLanguage children
  | alternation children => unionLanguage children
  | repetition least most _ child => repeated (Within least most) child.language

def productLanguage : List Expr → Language CodePoint
  | [] => 1
  | e :: es => e.language * productLanguage es

def unionLanguage : List Expr → Language CodePoint
  | [] => 0
  | e :: es => e.language + unionLanguage es

end

mutual

def WellFormed : Expr → Prop
  | empty => True
  | literal codes => ∀ c ∈ codes, c.isScalar = true
  | charClass c => c.Normal
  | group child => child.WellFormed
  | concat children => AllWellFormed children
  | alternation children => AllWellFormed children
  | repetition least most _ child => 0 ≤ least ∧ (∀ m ∈ most, least ≤ m) ∧ child.WellFormed

def AllWellFormed : List Expr → Prop
  | [] => True
  | e :: es => e.WellFormed ∧ AllWellFormed es

end

end Expr

theorem mem_oneOf {p : CodePoint → Prop} {w : List CodePoint} : w ∈ oneOf p ↔ ∃ x, p x ∧ w = [x] := Iff.rfl

theorem mem_repeated {allowed : Nat → Prop} {l : Language CodePoint} {w : List CodePoint} :
    w ∈ repeated allowed l ↔ ∃ k, allowed k ∧ w ∈ l ^ k := Iff.rfl

theorem oneOf_congr {p q : CodePoint → Prop} (same : ∀ x, p x ↔ q x) : oneOf p = oneOf q := by
  have equal : p = q := funext fun x => propext (same x)
  rw [equal]

theorem repeated_congr {p q : Nat → Prop} (l : Language CodePoint) (same : ∀ k, p k ↔ q k) :
    repeated p l = repeated q l := by
  have equal : p = q := funext fun k => propext (same k)
  rw [equal]

theorem mem_optional_pow {l : Language CodePoint} {n : Nat} {w : List CodePoint} :
    w ∈ (1 + l) ^ n ↔ ∃ k ≤ n, w ∈ l ^ k := by
  induction n generalizing w with
  | zero => simp
  | succ n ih =>
    rw [pow_succ',add_mul,one_mul,Language.mem_add,Language.mem_mul,ih]
    constructor
    · rintro (⟨k,bound,member⟩ | ⟨a,inL,b,inRest,rfl⟩)
      · exact ⟨k,by omega,member⟩
      · obtain ⟨k,bound,member⟩ := ih.mp inRest
        refine ⟨k + 1,by omega,?_⟩
        rw [pow_succ']
        exact Language.append_mem_mul inL member
    · rintro ⟨k,bound,member⟩
      cases k with
      | zero => exact .inl ⟨0,Nat.zero_le n,member⟩
      | succ k =>
        rw [pow_succ'] at member
        obtain ⟨a,inL,b,inRest,rfl⟩ := member
        exact .inr ⟨a,inL,b,ih.mpr ⟨k,by omega,inRest⟩,rfl⟩

theorem repeated_of_bounded {least most : Int} (l : Language CodePoint) (lower : 0 ≤ least) (upper : least ≤ most) :
    repeated (Within least (some most)) l = l ^ least.toNat * (1 + l) ^ (most - least).toNat := by
  ext w
  simp only [mem_repeated,Language.mem_mul,mem_optional_pow,Within,Option.mem_def,Option.some.injEq,forall_eq']
  constructor
  · rintro ⟨k,bounds,member⟩
    obtain ⟨extra,rfl⟩ := Nat.exists_eq_add_of_le (show least.toNat ≤ k by omega)
    rw [pow_add] at member
    obtain ⟨a,first,b,second,rfl⟩ := member
    exact ⟨a,first,b,⟨extra,by omega,second⟩,rfl⟩
  · rintro ⟨a,first,b,⟨extra,bound,second⟩,rfl⟩
    refine ⟨least.toNat + extra,by omega,?_⟩
    rw [pow_add]
    exact Language.append_mem_mul first second

theorem repeated_of_unbounded {least : Int} (l : Language CodePoint) (lower : 0 ≤ least) :
    repeated (Within least none) l = l ^ least.toNat * l∗ := by
  ext w
  simp only [mem_repeated,Language.mem_mul,Language.kstar_eq_iSup_pow,Language.mem_iSup,Within,Option.mem_def,
    reduceCtorEq,false_implies,implies_true,and_true]
  constructor
  · rintro ⟨k,bound,member⟩
    obtain ⟨extra,rfl⟩ := Nat.exists_eq_add_of_le (show least.toNat ≤ k by omega)
    rw [pow_add] at member
    obtain ⟨a,first,b,second,rfl⟩ := member
    exact ⟨a,first,b,⟨extra,second⟩,rfl⟩
  · rintro ⟨a,first,b,⟨extra,second⟩,rfl⟩
    refine ⟨least.toNat + extra,by omega,?_⟩
    rw [pow_add]
    exact Language.append_mem_mul first second

end LexPattern.Core
