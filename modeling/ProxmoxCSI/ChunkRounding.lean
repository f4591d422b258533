import ProxmoxCSI.VolumeReconciler

/-!
# Rounding to whole chunks

A size is rounded up in 64 bits: the result is a whole number of megabytes and
covers the size, unless the sum that is divided wraps around.
-/

set_option autoImplicit false

namespace ProxmoxCSI.ChunkRounding
open VolumeReconciler (int64 mib minChunkSizeBytes roundUpSizeBytes)

def chunk : ℤ := 2^29

theorem minChunk_eq : minChunkSizeBytes = chunk := rfl

theorem int64_of_bounds {n : ℤ} (h₁ : -2^63 ≤ n) (h₂ : n < 2^63) : int64 n = n := by
  unfold int64
  rw [Int.bmod_def]
  omega

theorem int64_wraps {n : ℤ} (h₁ : 2^63 ≤ n) (h₂ : n < 2^64) : int64 n = n-2^64 := by
  unfold int64
  rw [Int.bmod_def]
  omega

/-- Division towards zero is off by less than a chunk. -/
theorem tdiv_chunk (a : ℤ) : a-chunk < chunk*a.tdiv chunk ∧ (0 ≤ a → chunk*a.tdiv chunk ≤ a) ∧
    (a ≤ 0 → a ≤ chunk*a.tdiv chunk ∧ chunk*a.tdiv chunk < a+chunk) := by
  have hsum := Int.mul_tdiv_add_tmod a chunk
  have hlt := Int.tmod_lt_of_pos a (show 0 < chunk by decide)
  have hgt := Int.lt_tmod_of_pos a (show 0 < chunk by decide)
  refine ⟨by omega,?_,?_⟩
  · intro ha
    have hpos := Int.tmod_nonneg chunk ha
    omega
  · intro ha
    have hpos := Int.tmod_nonneg chunk (show 0 ≤ -a by omega)
    rw [Int.neg_tmod] at hpos
    omega

/-- The rounded size covers the request exactly when the sum fits. -/
theorem roundUp_covers {n : ℤ} (h₁ : -2^63 ≤ n) (h₂ : n < 2^63) :
    n ≤ roundUpSizeBytes n minChunkSizeBytes ↔ n ≤ 2^63-2^29 := by
  rw [minChunk_eq, roundUpSizeBytes]
  have hc : chunk = 2^29 := rfl
  by_cases hz : n = 0
  · rw [if_pos hz, hz]
    decide
  · rw [if_neg hz]
    by_cases hn : n ≤ 2^63-2^29
    · rw [int64_of_bounds (n := n+chunk-1) (by omega) (by omega)]
      obtain ⟨hlow,hpos,hneg⟩ := tdiv_chunk (n+chunk-1)
      rw [int64_of_bounds (by omega) (by omega)]
      exact ⟨fun _ => hn,fun _ => by omega⟩
    · rw [int64_wraps (n := n+chunk-1) (by omega) (by omega)]
      obtain ⟨_,_,hneg⟩ := tdiv_chunk (n+chunk-1-2^64)
      rw [int64_of_bounds (by omega) (by omega)]
      omega

end ProxmoxCSI.ChunkRounding
