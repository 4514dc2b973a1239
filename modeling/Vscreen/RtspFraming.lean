import Vscreen.RtspServer

/-! The connection loop and the request parser on the same bytes. The loop ends
the header block at its first empty line, the parser at the first `\r\n\r\n`; the
loop takes the length from lines that start with `content-length:`, the parser
from the last header of that name. -/
namespace Vscreen.Rtsp
open Text

section Block

theorem splitAtFeed {x y p q : Text} (first : '\n' ∉ x) (second : '\n' ∉ y) (same : x ++ '\n'::p = y ++ '\n'::q) :
    x = y ∧ p = q := by
  have both := splitOnceFirst p first
  rw [same,splitOnceFirst q second] at both
  cases both
  exact ⟨rfl,rfl⟩

theorem blankFirst {lines : List Text} {after : Text} (block : HeaderBlock lines)
    (empty : lines.flatten = '\r' :: '\n' :: after) : after = [] := by
  cases block with
  | last blank =>
    rcases blank with rfl | rfl
    · simpa [crlf,eq_comm] using empty
    · simp [lineFeed] at empty
  | cons ended more rest =>
    obtain ⟨x,rfl,unbroken⟩ := ended
    rw [List.flatten_cons,lineFeed,List.append_assoc,List.singleton_append] at empty
    obtain ⟨rfl,-⟩ := splitAtFeed (y := ['\r']) unbroken (by decide) empty
    exact (more (.inl rfl)).elim

theorem blockEnd {lines : List Text} {before after : Text} (block : HeaderBlock lines)
    (occurs : lines.flatten = before ++ headerEnd ++ after) : after = [] := by
  induction block generalizing before with
  | @last line blank =>
    have long := congrArg List.length occurs
    rcases blank with rfl | rfl <;> simp [headerEnd,crlf,lineFeed] at long <;> omega
  | @cons line lines ended more rest ih =>
    obtain ⟨x,rfl,unbroken⟩ := ended
    rw [List.flatten_cons,lineFeed,List.append_assoc,List.singleton_append] at occurs
    by_cases broken : '\n' ∈ before
    · -- the occurrence starts after the first line
      obtain ⟨first,others,rfl,absent⟩ := List.eq_append_cons_of_mem broken
      rw [List.append_assoc,List.append_assoc,List.cons_append,← List.append_assoc] at occurs
      exact ih (splitAtFeed unbroken absent occurs).2
    · -- the first line ends inside the occurrence, and the next one is empty
      have parted : x ++ '\n'::lines.flatten = (before ++ ['\r']) ++ '\n' :: '\r' :: '\n' :: after := by
        rw [occurs]
        simp [headerEnd]
      exact blankFirst rest (splitAtFeed unbroken (by simp [broken]) parted).2

theorem blockInfix {lines : List Text} (block : HeaderBlock lines) (occurs : headerEnd <:+: lines.flatten) :
    headerEnd <:+ lines.flatten := by
  obtain ⟨before,after,shape⟩ := occurs
  cases blockEnd block shape.symm
  exact ⟨before,by rw [← shape,List.append_nil]⟩

theorem cutBlock {lines : List Text} {before body : Text} (block : HeaderBlock lines)
    (ended : lines.flatten = before ++ headerEnd) : cut headerEnd (lines.flatten ++ body) = some (before,body) := by
  cases found : cut headerEnd (lines.flatten ++ body) with
  | none => exact (cutNone found ⟨before,body,by rw [ended]⟩).elim
  | some parts =>
    obtain ⟨before',body'⟩ := parts
    have shape := cutSome found
    have early := cutFirst found (by rw [ended] : lines.flatten ++ body = before ++ headerEnd ++ body)
    have inside : before' ++ headerEnd <+: lines.flatten := by
      refine List.prefix_of_prefix_length_le ⟨body',shape.symm⟩ (List.prefix_append _ body) ?_
      rw [ended,List.length_append,List.length_append]
      omega
    obtain ⟨more,inside⟩ := inside
    cases blockEnd block inside.symm
    rw [List.append_nil,ended] at inside
    cases List.append_cancel_right inside
    rw [ended] at shape
    cases List.append_cancel_left shape
    rfl

end Block

section Lines

def headerLines (s : Text) : List Text := (lines s).filter fun line => trim line ≠ []

theorem linesEnded (current before : Text) :
    (linesFrom current (before ++ headerEnd)).filter (fun line => trim line ≠ []) =
      (linesFrom current before).filter fun line => trim line ≠ [] := by
  induction before generalizing current with
  | nil =>
    have ended : linesFrom current headerEnd = [current,[]] := by
      simp [headerEnd,linesFrom,stripCr]
    rw [List.nil_append,ended,linesFrom]
    split
    · rename_i empty
      subst empty
      decide
    · simp [List.filter_cons,show trim [] = [] from rfl]
  | cons c before ih =>
    rw [List.cons_append,linesFrom,linesFrom]
    split
    · rw [List.filter_cons,List.filter_cons,ih]
    · exact ih _

def bare (line : Text) : Text := stripCr line.dropLast

theorem linesBlock {block : List Text} (shape : HeaderBlock block) : lines block.flatten = block.map bare := by
  induction shape with
  | last blank => rcases blank with rfl | rfl <;> decide
  | cons ended more rest ih =>
    obtain ⟨x,rfl,unbroken⟩ := ended
    rw [List.flatten_cons,lineFeed,List.append_assoc,List.singleton_append,lines,linesFromLine [] _ unbroken,ih]
    simp [bare]

theorem trimBare {line : Text} (ended : Terminated line) : trim (bare line) = trim line := by
  obtain ⟨x,rfl,-⟩ := ended
  rw [bare,lineFeed,List.dropLast_concat,trimStripCr,trimAppendSpace (by decide)]

theorem blockTerminated {block : List Text} (shape : HeaderBlock block) : ∀ line ∈ block, Terminated line := by
  induction shape with
  | last blank =>
    intro line member
    rw [List.mem_singleton.mp member]
    rcases blank with rfl | rfl
    · exact ⟨['\r'],rfl,by decide⟩
    · exact ⟨[],rfl,by decide⟩
  | cons ended more rest ih => exact List.forall_mem_cons.mpr ⟨ended,ih⟩

end Lines

section Lengths
variable (u : CaseMapping)

def lengthKey : Text := "content-length".toList

def fieldValue (key line : Text) : Option Text := match splitOnce ':' (trim line) with
  | none => none
  | some (name,value) => if u.toLowercase (trim name) = key then some (trim value) else none

def namedLength (lines : List Text) : Option Text := (lines.filterMap (fieldValue u lengthKey)).getLast?

def directLength (lines : List Text) : Nat := (lines.filterMap (scannedLength u)).getLast?.getD 0

variable {u}

theorem scanLengthsLast (start : Nat) (lines : List Text) :
    scanLengths u start lines = (lines.filterMap (scannedLength u)).getLast?.getD start := by
  induction lines generalizing start with
  | nil => rfl
  | cons line lines ih =>
    rw [scanLengths,List.foldl_cons]
    refine (ih _).trans ?_
    cases found : scannedLength u line with
    | none => rw [List.filterMap_cons_none found]; rfl
    | some n => rw [List.filterMap_cons_some found,List.getLast?_cons]; simp

theorem parsedHeader {headers headers' : Headers} {lines : List Text} (key : Text)
    (ok : parseHeadersFrom u headers lines = .ok headers') :
    headers'.get key = (lines.filterMap (fieldValue u key)).getLast?.or (headers.get key) := by
  induction lines generalizing headers with
  | nil => cases ok; rfl
  | cons line lines ih =>
    rw [parseHeadersFrom] at ok
    split at ok
    · rename_i blank
      have none : fieldValue u key line = none := by rw [fieldValue,blank]; rfl
      rw [List.filterMap_cons_none none]
      exact ih ok
    · split at ok
      · contradiction
      · rename_i name value parted
        rw [ih ok,Table.getPut]
        split
        · rename_i here
          have some : fieldValue u key line = some (trim value) := by
            rw [fieldValue,parted]; exact if_pos here.symm
          rw [List.filterMap_cons_some some,List.getLast?_cons]
          cases (lines.filterMap (fieldValue u key)).getLast? <;> rfl
        · rename_i other
          have none : fieldValue u key line = none := by
            rw [fieldValue,parted]; exact if_neg (Ne.symm other)
          rw [List.filterMap_cons_none none]

theorem fieldValueTrim {key line line' : Text} (same : trim line = trim line') :
    fieldValue u key line = fieldValue u key line' := by
  rw [fieldValue,fieldValue,same]

theorem fieldValueBlank (key : Text) {line : Text} (blank : trim line = []) : fieldValue u key line = none := by
  rw [fieldValue,blank]
  rfl

theorem namedLengthFilter (lines : List Text) :
    namedLength u (lines.filter fun line => trim line ≠ []) = namedLength u lines := by
  have keeps : (lines.filter fun line => trim line ≠ []).filterMap (fieldValue u lengthKey) =
      lines.filterMap (fieldValue u lengthKey) := by
    induction lines with
    | nil => rfl
    | cons line lines ih =>
      by_cases blank : trim line = []
      · rw [List.filter_cons_of_neg (by simpa using blank),List.filterMap_cons_none (fieldValueBlank _ blank),ih]
      · rw [List.filter_cons_of_pos (by simpa using blank),List.filterMap_cons,List.filterMap_cons,ih]
  rw [namedLength,keeps,namedLength]

theorem namedLengthBare {block : List Text} (ended : ∀ line ∈ block, Terminated line) :
    namedLength u (block.map bare) = namedLength u block := by
  rw [namedLength,namedLength,List.filterMap_map]
  congr 1
  exact List.filterMap_congr fun line member => fieldValueTrim (trimBare (ended line member))

end Lengths
end Vscreen.Rtsp
