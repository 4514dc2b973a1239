import Vscreen.Chunks
import Vscreen.Vp9Packetizer

/-! What the packets of a frame say: stripped of their descriptors they are the
frame, and the descriptors are right unless the frame is empty and not a keyframe. -/
namespace Vscreen.Vp9
open Vp9Packetizer

theorem flagsBits (key start stop ss : Bool) :
    flags key start stop ss &&& 0x80 ≠ 0 ∧ flags key start stop ss &&& 0x20 = 0 ∧
    flags key start stop ss &&& 0x10 = 0 ∧ (flags key start stop ss &&& 0x40 != 0) = !key ∧
    (flags key start stop ss &&& 0x08 != 0) = start ∧ (flags key start stop ss &&& 0x04 != 0) = stop ∧
    (flags key start stop ss &&& 0x02 != 0) = ss := by
  cases key <;> cases start <;> cases stop <;> cases ss <;> decide

theorem markedHigh : ∀ b : Byte, (0x80 ||| b) &&& 0x80 ≠ 0 ∧ ((0x80 ||| b) &&& 0x7F).toNat = b.toNat % 128 :=
  forallByte (by decide +kernel)

theorem readPictureIdBuilt {pid : UInt16} (inRange : pid.toNat < 2^15) (data : List Byte) :
    readPictureId (((0x80 : Byte) ||| ((pid >>> 8) &&& 0x7F).toUInt8)::(pid &&& 0xFF).toUInt8::data) =
      some (pid.toNat,data) := by
  have high := markedHigh ((pid >>> 8) &&& 0x7F).toUInt8
  have low : (pid &&& 0xFF).toUInt8.toNat = pid.toNat % 256 := by
    have mask := Nat.and_two_pow_sub_one_eq_mod (pid.toNat % 256) 8
    simp at mask ⊢
    omega
  have upper : ((pid >>> 8) &&& 0x7F).toUInt8.toNat = pid.toNat / 256 % 128 := by
    have mask := Nat.and_two_pow_sub_one_eq_mod (pid.toNat / 256 % 256) 7
    simp [Nat.shiftRight_eq_div_pow] at mask ⊢
    omega
  simp only [readPictureId,if_neg high.1,high.2,low,upper,Option.some.injEq,Prod.mk.injEq,and_true]
  omega

theorem readBuilt (p : Vp9Packetizer) (key start stop ss : Bool) {pid : UInt16} (inRange : pid.toNat < 2^15)
    (chunk : List Byte) : readDescriptor (p.buildDescriptor key start stop ss pid ++ chunk) =
      some (⟨some pid.toNat,!key,start,stop,ss⟩,chunk) := by
  obtain ⟨i,l,f,interPredicted,b,e,v⟩ := flagsBits key start stop ss
  cases ss with
  | false =>
    have none_ : flags key start stop false &&& 0x02 = 0 := by simpa using v
    simp only [buildDescriptor,Bool.false_eq_true,if_false,List.append_nil,List.cons_append,List.nil_append,
      readDescriptor,if_neg i,readPictureIdBuilt inRange,l,f,none_,if_true,true_or,interPredicted,b,e,
      Option.map_some,Option.bind_eq_bind,Option.bind_some]
    rfl
  | true =>
    have some_ : ¬ flags key start stop true &&& 0x02 = 0 := by simpa using v
    have y : ¬ ((0x10 : Byte) &&& 0x10 = 0) := by decide
    have g : ((0x10 : Byte) &&& 0x08 = 0) := by decide
    have n : 4 * (((0x10 : Byte) >>> 5).toNat + 1) = 4 := by decide
    simp only [buildDescriptor,if_true,List.cons_append,List.nil_append,
      readDescriptor,if_neg i,readPictureIdBuilt inRange,l,f,some_,if_false,true_or,interPredicted,b,e,v,
      Option.map_some,Option.bind_eq_bind,Option.bind_some,skipScalability,if_neg y,g,n,skip,List.length_cons]
    rw [if_pos (by omega)]
    rfl

theorem descriptorLength (p : Vp9Packetizer) (key start stop ss : Bool) (pid : UInt16) :
    (p.buildDescriptor key start stop ss pid).length = if ss then 8 else 3 := by
  cases ss <;> rfl

theorem advancePictureId (p : Vp9Packetizer) : p.advance.pictureId.toNat = (p.pictureId.toNat + 1) % 2^15 := by
  have mask := Nat.and_two_pow_sub_one_eq_mod ((p.pictureId.toNat + 1) % 65536) 15
  have inRange := p.inRange
  simp [advance] at mask ⊢
  omega

def continuation (p : Vp9Packetizer) (key : Bool) (piece : Piece Byte) : Payload :=
  p.buildDescriptor key false piece.last false p.pictureId ++ piece.chunk

theorem continuationLoopDone (p : Vp9Packetizer) (frame key) {pid} (fuel offset : Nat) (packets : List Payload)
    (done : frame.length ≤ offset) : p.continuationLoop frame key pid fuel offset packets = some packets := by
  cases fuel <;> rw [continuationLoop,if_neg (by omega)]

theorem continuationLoopRound {p : Vp9Packetizer} {frame key} (fuel offset : Nat) (packets : List Payload)
    (left : offset < frame.length) : p.continuationLoop frame key p.pictureId (fuel + 1) offset packets =
      p.continuationLoop frame key p.pictureId fuel (min (offset + (p.mtu - 3)) frame.length)
        (packets ++ [continuation p key ⟨offset == 0,decide (frame.length ≤ offset + (p.mtu - 3)),
          slice frame offset (min (offset + (p.mtu - 3)) frame.length)⟩]) := by
  have last : decide (frame.length - offset ≤ p.mtu - 3) = decide (frame.length ≤ offset + (p.mtu - 3)) := by
    rw [decide_eq_decide]; omega
  rw [continuationLoop,if_pos left]
  simp only [continuationMaxPayload,descriptorLength,Bool.false_eq_true,if_false,last,continuation]

def expected (pid : Nat) (key : Bool) (i n : Nat) : Descriptor :=
  ⟨some pid,!key,decide (i = 0),decide (i + 1 = n),key && decide (i = 0)⟩

structure FrameSent (mtu pid : Nat) (frame : List Byte) (key : Bool) (packets : List Payload) : Prop where
  more : packets ≠ []
  fits : ∀ packet ∈ packets, packet.length ≤ mtu
  parts : ∃ parts : List (Descriptor × List Byte), packets.map readDescriptor = parts.map some ∧
    parts.flatMap Prod.snd = frame ∧
    ∀ i (inside : i < parts.length), parts[i].1 = expected pid key i parts.length

def room (mtu : Nat) (key : Bool) : Prop := (if key then 8 else 3) < mtu

theorem singleSent (p : Vp9Packetizer) {frame key} (fits : frame.length + (if key then 8 else 3) ≤ p.mtu) :
    FrameSent p.mtu p.pictureId.toNat frame key
      [p.buildDescriptor key true true key p.pictureId ++ frame] where
  more := by simp
  fits := by
    intro packet mem
    rw [List.mem_singleton.mp mem,List.length_append,descriptorLength]
    omega
  parts := by
    refine ⟨[(⟨some p.pictureId.toNat,!key,true,true,key⟩,frame)],?_,by simp,?_⟩
    · simp only [List.map_cons,List.map_nil,readBuilt p key true true key p.inRange]
    · intro i inside
      have zero : i = 0 := by simpa using inside
      subst zero
      simp [expected]

theorem fragmentedSent (p : Vp9Packetizer) {frame key first size} {pieces : List (Piece Byte)}
    (enough : room p.mtu key) (firstSize : size = p.mtu - (if key then 8 else 3))
    (cut : Chunked (p.mtu - 3) first (frame.drop size) pieces) :
    FrameSent p.mtu p.pictureId.toNat frame key
      ((p.buildDescriptor key true false key p.pictureId ++ frame.take size)::pieces.map (continuation p key)) where
  more := by simp
  fits := by
    unfold room at enough
    intro packet mem
    rcases List.mem_cons.mp mem with rfl | later
    · rw [List.length_append,descriptorLength,List.length_take]
      omega
    · obtain ⟨piece,inPieces,rfl⟩ := List.mem_map.mp later
      have bound := chunkedSize cut piece inPieces
      simp only [continuation,List.length_append,descriptorLength,Bool.false_eq_true,if_false]
      cases key <;> simp only [Bool.false_eq_true,if_false,if_true] at enough <;> omega
  parts := by
    refine ⟨(⟨some p.pictureId.toNat,!key,true,false,key⟩,frame.take size)::pieces.map (fun piece =>
      (⟨some p.pictureId.toNat,!key,false,piece.last,false⟩,piece.chunk)),?_,?_,?_⟩
    · simp only [List.map_cons,readBuilt p key true false key p.inRange,List.map_map]
      congr 1
      refine List.map_congr_left ?_
      intro piece _
      exact readBuilt p key false piece.last false p.inRange piece.chunk
    · have rest := chunkedFlat cut
      rw [List.flatMap_cons,List.flatMap_map,rest]
      exact List.take_append_drop size frame
    · intro i inside
      have rest := chunkedMore cut
      cases i with
      | zero =>
        have more : pieces ≠ [] := List.length_pos_iff.mp rest
        simp [expected,more]
      | succ i =>
        have inPieces : i < pieces.length := by simpa using inside
        have flags := chunkedFlags cut i inPieces
        simp [expected,flags.2]

theorem packetsSent (p : Vp9Packetizer) {frame : List Byte} {key : Bool} (enough : room p.mtu key)
    (good : frame = [] → key = true) : ∃ packets, FrameSent p.mtu p.pictureId.toNat frame key packets ∧
      ∀ fuel, frame.length ≤ fuel → p.packets fuel frame key = some packets := by
  unfold room at enough
  by_cases empty : frame = []
  · obtain rfl := good empty
    subst empty
    refine ⟨_,singleSent p (by simpa using Nat.le_of_lt enough),?_⟩
    intro fuel _
    simp [packets]
  · have isEmpty : frame.isEmpty = false := by simpa using empty
    by_cases fits : frame.length ≤ p.mtu - (if key then 8 else 3)
    · refine ⟨_,singleSent p (by omega),?_⟩
      intro fuel _
      simp only [packets,isEmpty,Bool.false_eq_true,if_false,descriptorLength,if_pos fits]
    · have size : min (p.mtu - (if key then 8 else 3)) frame.length = p.mtu - (if key then 8 else 3) :=
        Nat.min_eq_left (by omega)
      have small : 0 < p.mtu - 3 := by cases key <;> simp only [Bool.false_eq_true,if_false,if_true] at enough <;> omega
      obtain ⟨pieces,cut,runs⟩ := chunkedLoop small (continuationLoopDone p frame key)
        continuationLoopRound (p.mtu - (if key then 8 else 3)) (by omega)
      refine ⟨_,fragmentedSent p enough rfl cut,?_⟩
      intro fuel fuelEnough
      simp only [packets,isEmpty,Bool.false_eq_true,if_false,descriptorLength,if_neg fits,size]
      rw [runs fuel _ (by omega)]
      rfl

def AllSent (mtu : Nat) : (pid : Nat) → List (List Byte × Bool) → List (List Payload) → Prop
  | _,[],[] => True
  | pid,(frame,key)::frames,packets::rest =>
    FrameSent mtu pid frame key packets ∧ AllSent mtu ((pid + 1) % 2^15) frames rest
  | _,_,_ => False

def Inverts (p : Vp9Packetizer) (frames : List (List Byte × Bool)) : Prop :=
  ∃ outs, AllSent p.mtu p.pictureId.toNat frames outs ∧
    ∀ fuel, (∀ f ∈ frames, f.1.length ≤ fuel) → packetizeAll fuel p frames = some outs

theorem sequenceInverts (p : Vp9Packetizer) (frames : List (List Byte × Bool))
    (enough : ∀ f ∈ frames, room p.mtu f.2) (good : ∀ f ∈ frames, f.1 = [] → f.2 = true) : Inverts p frames := by
  induction frames generalizing p with
  | nil => exact ⟨[],trivial,fun _ _ => rfl⟩
  | cons f frames ih =>
    obtain ⟨frame,key⟩ := f
    obtain ⟨packets,sent,runs⟩ := packetsSent p (enough (frame,key) (by simp)) (good (frame,key) (by simp))
    obtain ⟨rest,others,runsRest⟩ := ih p.advance (fun f mem => enough f (List.mem_cons_of_mem _ mem))
      (fun f mem => good f (List.mem_cons_of_mem _ mem))
    rw [advancePictureId] at others
    refine ⟨packets::rest,⟨sent,others⟩,?_⟩
    intro fuel fuelEnough
    simp only [packetizeAll,packetize,runs fuel (fuelEnough (frame,key) (by simp)),
      runsRest fuel (fun f mem => fuelEnough f (List.mem_cons_of_mem _ mem)),Option.map_some]

theorem emptyInterWrong (p : Vp9Packetizer) {fuel packets} (runs : p.packets fuel [] false = some packets)
    (sent : FrameSent p.mtu p.pictureId.toNat [] false packets) : False := by
  simp only [Vp9Packetizer.packets,List.isEmpty_nil,if_true,Option.some.injEq] at runs
  subst runs
  obtain ⟨parts,read,_,right⟩ := sent.parts
  have built := readBuilt p false true true true p.inRange []
  rw [List.append_nil] at built
  rw [List.map_cons,List.map_nil,built] at read
  obtain ⟨part,rfl⟩ : ∃ part, parts = [part] := by
    match parts with
    | [] => simp at read
    | [part] => exact ⟨part,rfl⟩
    | _::_::_ => simp at read
  have same := right 0 (by simp)
  simp only [List.map_cons,List.map_nil,List.cons.injEq,Option.some.injEq,and_true] at read
  rw [List.getElem_cons_zero,← read] at same
  simp [expected] at same

theorem sequenceGood (p : Vp9Packetizer) {fuel frames outs} (runs : packetizeAll fuel p frames = some outs)
    (sent : AllSent p.mtu p.pictureId.toNat frames outs) : ∀ f ∈ frames, f.1 = [] → f.2 = true := by
  induction frames generalizing p outs with
  | nil => simp
  | cons f frames ih =>
    obtain ⟨frame,key⟩ := f
    simp only [packetizeAll,packetize] at runs
    split at runs
    · contradiction
    · rename_i p' packets same
      obtain ⟨rfl,found⟩ := Prod.mk.inj same
      obtain ⟨rest,runsRest,rfl⟩ := Option.map_eq_some_iff.mp runs
      obtain ⟨first,others⟩ := sent
      rw [← advancePictureId] at others
      intro f mem empty
      rcases List.mem_cons.mp mem with rfl | later
      · by_contra inter
        rw [Bool.not_eq_true] at inter
        dsimp only at empty inter
        subst empty inter
        exact emptyInterWrong p found first
      · exact ih p.advance runsRest others f later empty

theorem invertsExactly (p : Vp9Packetizer) (frames : List (List Byte × Bool))
    (enough : ∀ f ∈ frames, room p.mtu f.2) :
    Inverts p frames ↔ ∀ f ∈ frames, f.1 = [] → f.2 = true := by
  constructor
  · rintro ⟨outs,sent,runs⟩
    have bound : ∀ f ∈ frames, f.1.length ≤ (frames.map (fun f => f.1)).flatten.length := by
      intro f mem
      exact (List.sublist_flatten_of_mem (List.mem_map_of_mem mem)).length_le
    exact sequenceGood p (runs _ bound) sent
  · exact sequenceInverts p frames enough

theorem invertsExactlyRun : Inverts (.new 640 480) [([1,2,3],true),([4],false)] :=
  (invertsExactly (.new 640 480) [([1,2,3],true),([4],false)] (by simp [room,new,defaultMtu])).mpr (by simp)

theorem emptyInterFrame : ¬ Inverts (.new 640 480) [([],false)] := by
  rintro ⟨outs,sent,runs⟩
  have run := runs 0 (by simp)
  cases outs with
  | nil => exact sent
  | cons packets rest =>
    have one : Vp9Packetizer.packets (.new 640 480) 0 [] false = some packets := by
      simp only [packetizeAll,packetize] at run
      split at run
      · contradiction
      · rename_i found
        obtain ⟨_,found⟩ := Prod.mk.inj found
        simp only [Option.map_some,Option.some.injEq,List.cons.injEq] at run
        rw [found,run.1]
    exact emptyInterWrong (.new 640 480) one sent.1

end Vscreen.Vp9
