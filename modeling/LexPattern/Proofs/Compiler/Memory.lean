import Mathlib
import LexPattern.Compiler.Basic

namespace LexPattern

namespace Cache

variable {κ ν : Type} [DecidableEq κ] {cache later : Cache κ ν} {key : κ} {value : ν} {entry : κ × ν}

theorem mem_of_get? (found : cache.get? key = some (value,later)) : (key,value) ∈ cache.entries := by
  obtain ⟨stored,known,same⟩ := Option.map_eq_some_iff.mp found
  cases same
  obtain ⟨before,after,split,_⟩ := List.lookup_eq_some_iff.mp known
  rw [split]
  simp

theorem mem_get? (found : cache.get? key = some (value,later)) (member : entry ∈ later.entries) : entry ∈ cache.entries := by
  have stored := mem_of_get? found
  obtain ⟨_,_,same⟩ := Option.map_eq_some_iff.mp found
  cases same
  rcases List.mem_cons.mp member with rfl | old
  · exact stored
  · exact List.mem_of_mem_filter old

theorem mem_put (member : entry ∈ (cache.put key value).entries) : entry = (key,value) ∨ entry ∈ cache.entries := by
  rcases List.mem_cons.mp (List.mem_of_mem_take member) with same | old
  · exact .inl same
  · exact .inr (List.mem_of_mem_filter old)

end Cache

def uncached (settings : Settings) (r : Request) : CompileResult := compile settings r.file r.pattern

namespace Compiler

-- Every remembered result is what the request compiles to.
def Faithful (c : Compiler) : Prop := ∀ entry ∈ c.cache.entries, entry.2 = uncached c.settings entry.1

def after (c : Compiler) (requests : List Request) : Compiler := requests.foldl (fun c r => (c.compile r).2) c

variable {c : Compiler} {requests : List Request}

theorem new_faithful (settings : Settings) (size : Int) : (new settings size).Faithful := nofun

-- An answer is that of the request itself, whether it was remembered or not.
theorem compile_answer (faithful : c.Faithful) (r : Request) : (c.compile r).1 = uncached c.settings r := by
  unfold compile
  split
  · rename_i result later found
    exact faithful (r,result) (Cache.mem_of_get? found)
  · rfl

theorem compile_settings (r : Request) : (c.compile r).2.settings = c.settings := by
  unfold compile
  split
  · rfl
  · rfl

theorem compile_faithful (faithful : c.Faithful) (r : Request) : (c.compile r).2.Faithful := by
  intro entry member
  rw [compile_settings]
  unfold compile at member
  split at member
  · rename_i result later found
    exact faithful entry (Cache.mem_get? found member)
  · rcases Cache.mem_put member with rfl | old
    · rfl
    · exact faithful entry old

theorem after_settings : (c.after requests).settings = c.settings := by
  induction requests generalizing c with
  | nil => rfl
  | cons r requests ih => exact ih.trans (compile_settings r)

theorem after_faithful (faithful : c.Faithful) : (c.after requests).Faithful := by
  induction requests generalizing c with
  | nil => exact faithful
  | cons r requests ih => exact ih (compile_faithful faithful r)

end Compiler

end LexPattern
