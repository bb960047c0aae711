import MessagingSystem.Foundation.Digits

/-!
# Byte strings

Big-endian numbers of a fixed width, and data cut into pieces of a fixed size: every piece
but the last is full, and reading the pieces one after the other gives the data back.
-/

namespace MessagingSystem
namespace Foundation

variable {size : Nat}

abbrev Bytes := List UInt8

/-!
# Numbers
-/

/-- `struct.pack` of an unsigned number, most significant byte first. -/
def packBE (width n : Nat) : Bytes :=
  (fixedDigits 256 width n).map UInt8.ofNat

def unpackBE (bytes : Bytes) : Nat :=
  digitsValue 256 (bytes.map UInt8.toNat)

@[simp] theorem packBE_length (width n : Nat) : (packBE width n).length = width := by
  simp [packBE]

theorem unpackBE_packBE {width n : Nat} (h : n < 256 ^ width) :
    unpackBE (packBE width n) = n := by
  unfold unpackBE packBE
  rw [map_map_cancel]
  · exact digitsValue_fixedDigits width h
  · intro d hd
    exact Nat.mod_eq_of_lt (fixedDigits_lt (by decide) width n d hd)

/-!
# Pieces
-/

section

variable {α : Type _}

def piecesFrom (size : Nat) : Nat -> List α -> List (List α)
  | 0, _ => []
  | fuel + 1, data =>
      match data with
      | [] => []
      | _ :: _ => data.take size :: piecesFrom size fuel (data.drop size)

/-- The data in pieces of the given size. -/
def pieces (size : Nat) (data : List α) : List (List α) :=
  piecesFrom size data.length data

@[simp] theorem pieces_nil (size : Nat) : pieces size ([] : List α) = [] :=
  rfl

section

variable (hsize : 0 < size)
include hsize

theorem piecesFrom_enough {fuel : Nat} {data : List α}
    (h : data.length ≤ fuel) : piecesFrom size fuel data = pieces size data := by
  unfold pieces
  -- Both sides cut off the same piece; what remains is shorter.
  induction fuel using Nat.strongRecOn generalizing data with
  | _ fuel ih =>
      cases data with
      | nil => cases fuel <;> rfl
      | cons a data =>
          cases fuel with
          | zero => cases h
          | succ fuel =>
              have hdrop : ((a :: data).drop size).length ≤ data.length := by
                rw [List.length_drop, List.length_cons]
                omega
              have hlength : data.length ≤ fuel := Nat.le_of_succ_le_succ h
              show _ :: piecesFrom size fuel _ = _ :: piecesFrom size data.length _
              rw [ih fuel (Nat.lt_succ_self fuel) (Nat.le_trans hdrop hlength),
                ih data.length (Nat.lt_succ_of_le hlength) hdrop]

theorem pieces_cons {data : List α} (h : data ≠ []) :
    pieces size data = data.take size :: pieces size (data.drop size) := by
  cases data with
  | nil => exact absurd rfl h
  | cons a data =>
      have hdrop : ((a :: data).drop size).length ≤ data.length := by
        rw [List.length_drop, List.length_cons]
        omega
      show _ :: piecesFrom size data.length _ = _
      rw [piecesFrom_enough hsize hdrop]

/-- Induction over the pieces of some data. -/
theorem pieces_induct {motive : List α -> Prop}
    (nil : motive [])
    (step : forall data, data ≠ [] -> motive (data.drop size) -> motive data)
    (data : List α) : motive data := by
  induction hn : data.length using Nat.strongRecOn generalizing data with
  | _ n ih =>
      cases data with
      | nil => exact nil
      | cons a data =>
          apply step _ (List.cons_ne_nil a data)
          refine ih _ ?_ _ rfl
          rw [← hn, List.length_drop, List.length_cons]
          omega

theorem flatten_pieces (data : List α) :
    (pieces size data).flatten = data := by
  induction data using pieces_induct hsize with
  | nil => rfl
  | step data hdata ih =>
      rw [pieces_cons hsize hdata, List.flatten_cons, ih, List.take_append_drop]

theorem mem_pieces {data piece : List α}
    (h : piece ∈ pieces size data) : piece ≠ [] ∧ piece.length ≤ size := by
  induction data using pieces_induct hsize with
  | nil => cases h
  | step data hdata ih =>
      rw [pieces_cons hsize hdata] at h
      rcases List.mem_cons.mp h with heq | hmem
      · rw [heq]
        refine ⟨?_, List.length_take_le size data⟩
        intro hnil
        rcases List.take_eq_nil_iff.mp hnil with hzero | hempty
        · omega
        · exact hdata hempty
      · exact ih hmem

/-- How many pieces there can be. -/
theorem length_pieces_mul_lt (data : List α) :
    (pieces size data).length * size < data.length + size := by
  induction data using pieces_induct hsize with
  | nil =>
      rw [pieces_nil, List.length_nil, Nat.zero_mul, List.length_nil]
      omega
  | step data hdata ih =>
      rw [pieces_cons hsize hdata, List.length_cons, Nat.succ_mul]
      rw [List.length_drop] at ih
      have hpos := List.length_pos_of_ne_nil hdata
      by_cases hle : size ≤ data.length
      · omega
      · have hnone : (pieces size (data.drop size)).length = 0 := by
          rw [List.drop_eq_nil_of_le (Nat.le_of_not_le hle)]
          rfl
        rw [hnone]
        omega

/-- Full pieces in front stay as they are. -/
theorem pieces_flatten_append {full : List (List α)}
    (hfull : forall piece, piece ∈ full -> piece.length = size) (rest : List α) :
    pieces size (full.flatten ++ rest) = full ++ pieces size rest := by
  induction full with
  | nil => rfl
  | cons piece full ih =>
      have hlength := hfull piece List.mem_cons_self
      have hne : (piece :: full).flatten ++ rest ≠ [] := by
        intro hnil
        rw [List.flatten_cons, List.append_assoc, List.append_eq_nil_iff] at hnil
        rw [hnil.1] at hlength
        rw [← hlength] at hsize
        exact Nat.lt_irrefl 0 hsize
      rw [pieces_cons hsize hne, List.flatten_cons, List.append_assoc,
        List.take_append_of_le_length (Nat.le_of_eq hlength.symm),
        List.take_of_length_le (Nat.le_of_eq hlength),
        List.drop_append_of_le_length (Nat.le_of_eq hlength.symm),
        List.drop_of_length_le (Nat.le_of_eq hlength), List.nil_append,
        ih (fun p hp => hfull p (List.mem_cons_of_mem piece hp)), List.cons_append]

end

theorem pieces_of_short {data : List α} (hdata : data ≠ [])
    (h : data.length ≤ size) : pieces size data = [data] := by
  have hsize : 0 < size := Nat.lt_of_lt_of_le (List.length_pos_of_ne_nil hdata) h
  rw [pieces_cons hsize hdata, List.take_of_length_le h, List.drop_of_length_le h, pieces_nil]

end

end Foundation
end MessagingSystem
