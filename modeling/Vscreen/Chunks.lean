import Vscreen.Bytes

/-! Cutting a list into chunks of one size, the last one smaller if need be. `Chunked`
describes the pieces with their first and last flags; `chunkedLoop` is the rule for
a loop that emits one piece a round, whatever it makes of it. -/
namespace Vscreen

structure Piece (α : Type) where
  first : Bool
  last : Bool
  chunk : List α

inductive Chunked {α : Type} (size : Nat) : Bool → List α → List (Piece α) → Prop where
  | last {first data} (more : data ≠ []) (fits : data.length ≤ size) :
      Chunked size first data [⟨first,true,data⟩]
  | more {first chunk data pieces} (full : chunk.length = size) (next : Chunked size false data pieces) :
      Chunked size first (chunk ++ data) (⟨first,false,chunk⟩::pieces)

variable {α β : Type} {size : Nat} {first : Bool} {data : List α} {pieces : List (Piece α)}

theorem chunkedFlat (cut : Chunked size first data pieces) : pieces.flatMap Piece.chunk = data := by
  induction cut with
  | last more fits => simp
  | more full next ih => rw [List.flatMap_cons,ih]

theorem chunkedSize (cut : Chunked size first data pieces) : ∀ piece ∈ pieces, piece.chunk.length ≤ size := by
  induction cut with
  | last more fits =>
    intro piece mem
    rw [List.mem_singleton.mp mem]
    exact fits
  | more full next ih =>
    intro piece mem
    rcases List.mem_cons.mp mem with rfl | later
    · exact Nat.le_of_eq full
    · exact ih piece later

theorem chunkedMore (cut : Chunked size first data pieces) : 0 < pieces.length := by
  cases cut <;> simp

theorem chunkedTwo (cut : Chunked size first data pieces) (large : size < data.length) : 2 ≤ pieces.length := by
  cases cut with
  | last more fits => omega
  | more full next =>
    have rest := chunkedMore next
    rw [List.length_cons]
    omega

theorem chunkedFlags (cut : Chunked size first data pieces) : ∀ i (inside : i < pieces.length),
    pieces[i].first = (first && decide (i = 0)) ∧ pieces[i].last = decide (i + 1 = pieces.length) := by
  induction cut with
  | last more fits =>
    intro i inside
    have zero : i = 0 := by simpa using inside
    subst zero
    simp
  | more full next ih =>
    intro i inside
    cases i with
    | zero =>
      have rest := chunkedMore next
      simp only [List.getElem_cons_zero,List.length_cons,decide_true,Bool.and_true,true_and]
      symm
      rw [decide_eq_false_iff_not]
      omega
    | succ i =>
      have flags := ih i (by simpa using inside)
      simpa using flags

theorem chunkedLoop {loop : Nat → Nat → List β → Option (List β)} {emit : Piece α → β} (room : 0 < size)
    (done : ∀ fuel offset acc, data.length ≤ offset → loop fuel offset acc = some acc)
    (round : ∀ fuel offset acc, offset < data.length → loop (fuel + 1) offset acc =
      loop fuel (min (offset + size) data.length) (acc ++ [emit ⟨offset == 0,decide (data.length ≤ offset + size),
        slice data offset (min (offset + size) data.length)⟩]))
    (offset : Nat) (left : offset < data.length) :
    ∃ pieces, Chunked size (offset == 0) (data.drop offset) pieces ∧
      ∀ fuel acc, data.length - offset ≤ fuel → loop fuel offset acc = some (acc ++ pieces.map emit) := by
  have rest : (data.drop offset).length = data.length - offset := List.length_drop
  by_cases last : data.length ≤ offset + size
  · have all : slice data offset (min (offset + size) data.length) = data.drop offset := by
      unfold slice
      rw [List.take_of_length_le]
      omega
    refine ⟨[⟨offset == 0,true,data.drop offset⟩],.last ?_ (by omega),?_⟩
    · intro empty
      rw [empty,List.length_nil] at rest
      omega
    · intro fuel acc enough
      obtain ⟨n,rfl⟩ := Nat.exists_eq_add_of_le' (show 1 ≤ fuel by omega)
      rw [round n offset acc left,all,decide_eq_true last,done _ _ _ (by omega)]
      rfl
  · have stop : min (offset + size) data.length = offset + size := Nat.min_eq_left (by omega)
    obtain ⟨pieces,cut,runs⟩ := chunkedLoop room done round (offset + size) (by omega)
    have later : (offset + size == 0) = false := by
      rw [beq_eq_false_iff_ne]; omega
    rw [later] at cut
    refine ⟨⟨offset == 0,false,slice data offset (offset + size)⟩::pieces,?_,?_⟩
    · have parts : data.drop offset = slice data offset (offset + size) ++ data.drop (offset + size) := by
        simp [slice,← List.drop_drop]
      rw [parts]
      refine .more ?_ cut
      simp only [slice,List.length_take,List.length_drop]
      omega
    · intro fuel acc enough
      obtain ⟨n,rfl⟩ := Nat.exists_eq_add_of_le' (show 1 ≤ fuel by omega)
      rw [round n offset acc left,stop,decide_eq_false last,runs n _ (by omega)]
      simp
termination_by data.length - offset

end Vscreen
