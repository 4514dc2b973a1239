import Vscreen.H264Packetizer

/-! Splitting undoes joining: an Annex-B stream of NAL units, each behind a start
code of three or four bytes, splits into exactly those units. -/
namespace Vscreen.H264

structure NalUnit where
  header : Byte
  data : List Byte
  type : 1 ≤ payloadType header ∧ payloadType header ≤ 23
  noStartCode : ¬ startCode3 <:+: header::data
  ending : (header::data).getLast? ≠ some 0

def NalUnit.bytes (u : NalUnit) : Nal := u.header::u.data

def startCode (long : Bool) : List Byte := if long then startCode4 else startCode3

def annexB : List (Bool × NalUnit) → List Byte
  | [] => []
  | (long,u)::units => startCode long ++ u.bytes ++ annexB units

theorem codeAtDrop (data : List Byte) (i : Nat) : codeAt data i =
    if (data.drop i).take 4 = startCode4 then some 4
    else if (data.drop i).take 3 = startCode3 then some 3 else none := by
  have room : ∀ (n : Nat) (code : List Byte), code.length = n → 0 < n →
      ((i + n ≤ data.length ∧ slice data i (i + n) = code) ↔ (data.drop i).take n = code) := by
    intro n code size pos
    constructor
    · rintro ⟨_,same⟩
      simpa [slice] using same
    · intro same
      have length := congrArg List.length same
      simp only [List.length_take,List.length_drop,size] at length
      exact ⟨by omega,by simpa [slice] using same⟩
  unfold codeAt
  simp only [room 4 startCode4 rfl (by omega),room 3 startCode3 rfl (by omega)]

theorem codeAtCode (before rest : List Byte) (long : Bool) :
    codeAt (before ++ (startCode long ++ rest)) before.length = some (startCode long).length := by
  rw [codeAtDrop,List.drop_left]
  cases long <;> simp [startCode,startCode3,startCode4]

structure Inside (t : List Byte) : Prop where
  noStartCode : ¬ startCode3 <:+: t
  ending : t.getLast? ≠ some 0

theorem insideTail {b b' : Byte} {t : List Byte} (inside : Inside (b::b'::t)) : Inside (b'::t) where
  noStartCode := by
    intro infix_
    exact inside.noStartCode (infix_.trans (List.suffix_cons b (b'::t)).isInfix)
  ending := by
    have last := inside.ending
    rwa [List.getLast?_cons_cons] at last

theorem codeAtInside (before after : List Byte) {b : Byte} {t : List Byte} (inside : Inside (b::t)) :
    codeAt (before ++ (b::t ++ after)) before.length = none := by
  have last := inside.ending
  have none_ := inside.noStartCode
  rw [codeAtDrop,List.drop_left]
  match t with
  | [] =>
    have nonzero : b ≠ 0 := by simpa using last
    simp [startCode3,startCode4,nonzero]
  | [c] =>
    have nonzero : c ≠ 0 := by simpa using last
    simp [startCode3,startCode4,nonzero]
  | [c,d] =>
    have nonzero : d ≠ 0 := by simpa using last
    have apart : ¬ (b = 0 ∧ c = 0 ∧ d = 1) := by
      rintro ⟨rfl,rfl,rfl⟩
      exact none_ (List.infix_refl _)
    simpa [startCode3,startCode4,nonzero] using apart
  | c::d::e::t =>
    have here : ¬ (b = 0 ∧ c = 0 ∧ d = 1) := by
      rintro ⟨rfl,rfl,rfl⟩
      exact none_ ⟨[],e::t,rfl⟩
    have next : ¬ (c = 0 ∧ d = 0 ∧ e = 1) := by
      rintro ⟨rfl,rfl,rfl⟩
      exact none_ ⟨[b],t,rfl⟩
    have long : ¬ (b = 0 ∧ c = 0 ∧ d = 0 ∧ e = 1) := fun all => next all.2
    simp [startCode3,startCode4,here,long]

theorem scanCode {data : List Byte} {i nalStart n : Nat} (room : i < data.length) (found : codeAt data i = some n) :
    scanNals data i nalStart =
      (if nalStart < i then [slice data nalStart i] else []) ++ scanNals data (i + n) (i + n) := by
  rw [scanNals,if_pos room]
  split
  · rename_i n' found'
    rw [found] at found'
    cases found'
    rfl
  · rename_i absent
    rw [found] at absent; contradiction

theorem scanByte {data : List Byte} {i nalStart : Nat} (room : i < data.length) (absent : codeAt data i = none) :
    scanNals data i nalStart = scanNals data (i + 1) nalStart := by
  rw [scanNals,if_pos room]
  split
  · rename_i found
    rw [absent] at found; contradiction
  · rfl

theorem scanEnd {data : List Byte} {i nalStart : Nat} (last : data.length ≤ i) :
    scanNals data i nalStart = if nalStart < data.length then [data.drop nalStart] else [] := by
  rw [scanNals,if_neg (by omega)]

theorem scanInside (before done after : List Byte) {t : List Byte} (inside : t = [] ∨ Inside t) :
    scanNals (before ++ done ++ t ++ after) (before ++ done).length before.length =
      scanNals (before ++ done ++ t ++ after) (before ++ done ++ t).length before.length := by
  induction t generalizing done with
  | nil => simp
  | cons b t ih =>
    have inside : Inside (b::t) := by
      rcases inside with empty | inside
      · contradiction
      · exact inside
    have rest : t = [] ∨ Inside t := by
      cases t with
      | nil => exact .inl rfl
      | cons c t => exact .inr (insideTail inside)
    have absent : codeAt (before ++ done ++ (b::t) ++ after) (before ++ done).length = none := by
      rw [List.append_assoc (before ++ done)]
      exact codeAtInside (before ++ done) after inside
    have room : (before ++ done).length < (before ++ done ++ (b::t) ++ after).length := by
      simp only [List.length_append,List.length_cons]; omega
    rw [scanByte room absent]
    have next := ih (done ++ [b]) rest
    simpa [List.append_assoc,Nat.add_assoc] using next

theorem unitInside (u : NalUnit) : Inside u.bytes := ⟨u.noStartCode,u.ending⟩

theorem scanUnits (before : List Byte) (u : NalUnit) (units : List (Bool × NalUnit)) :
    scanNals (before ++ u.bytes ++ annexB units) before.length before.length =
      u.bytes::units.map (fun x => x.2.bytes) := by
  induction units generalizing before u with
  | nil =>
    have passed := scanInside before [] [] (.inr (unitInside u))
    simp only [List.append_nil] at passed
    rw [annexB,List.append_nil,passed,scanEnd (Nat.le_refl _)]
    have room : before.length < (before ++ u.bytes).length := by simp [NalUnit.bytes]
    rw [if_pos room]
    simp
  | cons x units ih =>
    obtain ⟨long,v⟩ := x
    have passed := scanInside before [] (annexB ((long,v)::units)) (.inr (unitInside u))
    simp only [List.append_nil] at passed
    rw [passed]
    have found : codeAt (before ++ u.bytes ++ annexB ((long,v)::units)) (before ++ u.bytes).length =
        some (startCode long).length := by
      rw [annexB,List.append_assoc (startCode long)]
      exact codeAtCode (before ++ u.bytes) (v.bytes ++ annexB units) long
    have room : (before ++ u.bytes).length < (before ++ u.bytes ++ annexB ((long,v)::units)).length := by
      simp [annexB,NalUnit.bytes]; omega
    have later : before.length < (before ++ u.bytes).length := by simp [NalUnit.bytes]
    rw [scanCode room found,if_pos later,sliceAppend]
    have next := ih (before ++ u.bytes ++ startCode long) v
    simp only [List.map_cons,List.singleton_append]
    rw [← next]
    simp [annexB,List.append_assoc,Nat.add_assoc]

theorem splitJoined (units : List (Bool × NalUnit)) :
    splitAnnexB (annexB units) = units.map (fun x => x.2.bytes) := by
  cases units with
  | nil =>
    unfold splitAnnexB
    rw [firstNal]
    simp [annexB,scanEnd]
  | cons x units =>
    obtain ⟨long,u⟩ := x
    have found : codeAt (annexB ((long,u)::units)) 0 = some (startCode long).length := by
      have first := codeAtCode [] (u.bytes ++ annexB units) long
      simpa [annexB] using first
    have room : 0 < (annexB ((long,u)::units)).length := by
      simp only [annexB,NalUnit.bytes,List.length_append,List.length_cons]
      omega
    have start : firstNal (annexB ((long,u)::units)) 0 = (startCode long).length := by
      rw [firstNal,if_pos room,found]
      simp
    simp only [splitAnnexB,start]
    exact scanUnits (startCode long) u units

end Vscreen.H264
