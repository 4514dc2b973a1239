import Mathlib.Algebra.GroupWithZero.Nat
import Vscreen.Dispatches
import Vscreen.Utf8Cut

/-! Keyboard input on its way to Chrome: the conversion of key events (input.rs) and
the key combinations of the API (mcp/interaction.rs). `none` is a panic. -/
namespace Vscreen.Cdp
open Utf8 (byteLength byteLengthOne)

inductive KeyEventType where
  | keyDown
  | rawKeyDown
  | keyUp
  deriving DecidableEq, Repr

structure DispatchKeyEventParams where
  eventType : KeyEventType
  key : Option Text
  code : Option Text
  text : Option Text
  modifiers : UInt32
  windowsVirtualKeyCode : Option UInt32
  deriving DecidableEq

inductive KeyInput where
  | keyDown (key code : Text) (m : UInt8)
  | keyUp (key code : Text) (m : UInt8)
  deriving DecidableEq

def namedKeys : List (String × UInt32) :=
  [("Backspace",8),("Tab",9),("Enter",13),("Shift",16),("Control",17),("Alt",18),("Pause",19),("CapsLock",20),
    ("Escape",27),(" ",32),("PageUp",33),("PageDown",34),("End",35),("Home",36),("ArrowLeft",37),("ArrowUp",38),
    ("ArrowRight",39),("ArrowDown",40),("Insert",45),("Delete",46),("Meta",91),("ContextMenu",93),("F1",112),
    ("F2",113),("F3",114),("F4",115),("F5",116),("F6",117),("F7",118),("F8",119),("F9",120),("F10",121),
    ("F11",122),("F12",123),("NumLock",144),("ScrollLock",145)]

def punctuationKeys : List (List Char × UInt32) :=
  [([';',':'],186),(['=','+'],187),([',','<'],188),(['-','_'],189),(['.','>'],190),(['/','?'],191),
    (['\x60','~'],192),(['[','{'],219),(['\\','|'],220),([']','}'],221),(['\'','"'],222)]

def charToVk (ch : Char) : Option UInt32 :=
  if 'a' ≤ ch ∧ ch ≤ 'z' then some ch.toUpper.val
  else if 'A' ≤ ch ∧ ch ≤ 'Z' ∨ '0' ≤ ch ∧ ch ≤ '9' then some ch.val
  else (punctuationKeys.find? fun p => p.1.contains ch).map Prod.snd

def keyToVk (key : Text) : Option (Option UInt32) :=
  match namedKeys.find? fun p => p.1.toList = key with
  | some p => some (some p.2)
  | none => if byteLength key = 1 then key.head?.map charToVk else some none

def inputToKeyParams : KeyInput → Option DispatchKeyEventParams
  | .keyDown key code m => match keyToVk key with
    | none => none
    | some vk =>
      let isPrintable := byteLength key = 1
      some ⟨if isPrintable then .keyDown else .rawKeyDown,some key,some code,
        if isPrintable then some key else none,m.toUInt32,vk⟩
  | .keyUp key code m => match keyToVk key with
    | none => none
    | some vk => some ⟨.keyUp,some key,some code,none,m.toUInt32,vk⟩

abbrev KeySent := KeyInput × DispatchKeyEventParams

-- A dispatch that fails sends nothing; `fails` tells it by its number, with its error.
def dispatchKeys (fails : Nat → Option Text) (m : Text → KeyInput) :
    Nat → List Text → Option (List KeySent × Except ToolError Unit)
  | _,[] => some ([],.ok ())
  | i,key::rest => match inputToKeyParams (m key) with
    | none => none
    | some params => match fails i with
      | some e => some ([],.error (.internalError e))
      | none => (dispatchKeys fails m (i + 1) rest).map fun r => ((m key,params)::r.1,r.2)

def comboDown (key : Text) : KeyInput := .keyDown key key 0

def comboUp (key : Text) : KeyInput := .keyUp key key 0

def vscreenKeyCombo (keys : List Text) (fails : Nat → Option Text) : Option (List KeySent × Except ToolError Text) :=
  if keys.isEmpty then some ([],.error (.invalidParams "keys array must not be empty".toList))
  else match dispatchKeys fails comboDown 0 keys with
    | none => none
    | some (downs,.error e) => some (downs,.error e)
    | some (downs,.ok ()) => match dispatchKeys fails comboUp keys.length keys.reverse with
      | none => none
      | some (ups,.error e) => some (downs ++ ups,.error e)
      | some (ups,.ok ()) =>
        some (downs ++ ups,.ok ("Pressed key combo: ".toList ++ ['+'].intercalate keys))

theorem keyToVkTotal (key : Text) : ∃ vk, keyToVk key = some vk := by
  rw [keyToVk]
  split
  · exact ⟨_,rfl⟩
  · split
    · rename_i one
      obtain ⟨c,rfl,-⟩ := byteLengthOne.mp one
      exact ⟨charToVk c,rfl⟩
    · exact ⟨none,rfl⟩

theorem keyDownParams {key : Text} {vk : Option UInt32} (found : keyToVk key = some vk) (code : Text) (m : UInt8) :
    inputToKeyParams (.keyDown key code m) = some ⟨if byteLength key = 1 then .keyDown else .rawKeyDown,some key,
      some code,if byteLength key = 1 then some key else none,m.toUInt32,vk⟩ := by
  rw [inputToKeyParams,found]

theorem keyUpParams {key : Text} {vk : Option UInt32} (found : keyToVk key = some vk) (code : Text) (m : UInt8) :
    inputToKeyParams (.keyUp key code m) = some ⟨.keyUp,some key,some code,none,m.toUInt32,vk⟩ := by
  rw [inputToKeyParams,found]

/-- What a press and a release of one key have to be, on any keyboard layout:
`printable` says which characters are printable. -/
structure TypedRight (printable : Char → Prop) (key : Text) (down up : DispatchKeyEventParams) : Prop where
  character : ∀ c, key = [c] → printable c → down.eventType = .keyDown ∧ down.text = some key
  named : 2 ≤ key.length → down.eventType = .rawKeyDown ∧ down.text = none
  silent : up.text = none
  codes : down.windowsVirtualKeyCode = up.windowsVirtualKeyCode

def Typed (printable : Char → Prop) (key code code' : Text) (m m' : UInt8) : Prop := ∃ down up,
  inputToKeyParams (.keyDown key code m) = some down ∧ inputToKeyParams (.keyUp key code' m') = some up ∧
    TypedRight printable key down up

theorem keysTyped (printable : Char → Prop) (key code code' : Text) (m m' : UInt8) :
    Typed printable key code code' m m' ↔ ∀ c, key = [c] → printable c → c.toNat < 128 := by
  obtain ⟨vk,found⟩ := keyToVkTotal key
  have pressed := keyDownParams found code m
  have released := keyUpParams found code' m'
  constructor
  · rintro ⟨down,up,sent,-,right⟩ c same shown
    cases pressed.symm.trans sent
    obtain ⟨-,text⟩ := right.character c same shown
    dsimp only at text
    split at text
    · rename_i one
      obtain ⟨d,same',small⟩ := byteLengthOne.mp one
      cases same.symm.trans same'
      exact small
    · cases text
  · intro small
    refine ⟨_,_,pressed,released,?_,?_,rfl,rfl⟩
    · intro c same shown
      have one : byteLength key = 1 := byteLengthOne.mpr ⟨c,same,small c same shown⟩
      exact ⟨if_pos one,if_pos one⟩
    · intro several
      have many : ¬ byteLength key = 1 := by
        rw [byteLengthOne]
        rintro ⟨c,rfl,-⟩
        simp at several
      exact ⟨if_neg many,if_neg many⟩

theorem cyrillicSilent : ¬ Typed (fun c => 0x20 < c.toNat ∧ c.toNat ≠ 0x7F)
    "ж".toList "Semicolon".toList "Semicolon".toList 0 0 := by
  rintro ⟨down,up,sent,-,right⟩
  have pressed : (inputToKeyParams (.keyDown "ж".toList "Semicolon".toList 0)).map (·.text) = some none := by
    decide +kernel
  rw [sent] at pressed
  cases pressed.symm.trans (congrArg some (right.character 'ж' rfl (by decide)).2)

def modifierKeys : List (String × Nat) := [("Alt",1),("Control",2),("Meta",4),("Shift",8)]

def modifierMask (held : List Text) : Nat :=
  (modifierKeys.map fun (name,bit) => if held.contains name.toList then bit else 0).sum

def commandKeys : List String := ["Alt","Control","Meta"]

def KeyInput.after (held : List Text) : KeyInput → List Text
  | .keyDown key _ _ => key::held
  | .keyUp key _ _ => held.filter (· ≠ key)

structure KeyRight (held : List Text) (sent : KeySent) : Prop where
  modifiers : sent.2.modifiers.toNat = modifierMask held
  text : ∀ c code m, sent.1 = .keyDown [c] code m → (∃ name ∈ commandKeys, name.toList ∈ held) → sent.2.text = none

def KeysRight : List Text → List KeySent → Prop
  | _,[] => True
  | held,o::rest => KeyRight (o.1.after held) o ∧ KeysRight (o.1.after held) rest

structure Combined (keys : List Text) (sent : List KeySent) : Prop where
  order : sent.map Prod.fst <+: keys.map comboDown ++ keys.reverse.map comboUp
  right : KeysRight [] sent
  released : ∀ key, comboDown key ∈ sent.map Prod.fst →
    ∃ before after, sent.map Prod.fst = before ++ comboUp key::after ∧ comboDown key ∉ after

/-- No key that is pressed is a modifier, and each is released before a dispatch fails. -/
def ComboFits (keys : List Text) (fails : Nat → Option Text) : Prop :=
  let sent := delivered fails (2 * keys.length)
  ∀ key ∈ keys.take sent, (∀ p ∈ modifierKeys, key ≠ p.1.toList) ∧ key ∈ keys.reverse.take (sent - keys.length)

theorem inputTotal (e : KeyInput) : (inputToKeyParams e).isSome := by
  cases e with
  | keyDown key code m =>
    obtain ⟨vk,found⟩ := keyToVkTotal key
    rw [keyDownParams found]
    rfl
  | keyUp key code m =>
    obtain ⟨vk,found⟩ := keyToVkTotal key
    rw [keyUpParams found]
    rfl

def keySent (e : KeyInput) : KeySent := (e,(inputToKeyParams e).get (inputTotal e))

theorem keySentSome (e : KeyInput) : inputToKeyParams e = some (keySent e).2 := (Option.some_get (inputTotal e)).symm

section Dispatch
variable (fails : Nat → Option Text)

theorem dispatchedKeys (m : Text → KeyInput) (i : Nat) (keys : List Text) : ∃ result,
    dispatchKeys fails m i keys = some (((keys.map m).take (came fails i keys.length)).map keySent,result) ∧
      (result = .ok () ↔ came fails i keys.length = keys.length) := by
  induction keys generalizing i with
  | nil => exact ⟨.ok (),rfl,iff_of_true rfl rfl⟩
  | cons key keys ih =>
    rw [dispatchKeys,keySentSome,List.length_cons,cameSucc]
    cases failing : fails i with
    | some e => exact ⟨.error (.internalError e),rfl,iff_of_false (by simp) (by simp)⟩
    | none =>
      obtain ⟨result,rest,whole⟩ := ih (i + 1)
      refine ⟨result,?_,?_⟩
      · simp only [rest,Option.map_some,Option.isNone_none,if_true,List.map_cons,List.take_succ_cons]
        rfl
      · rw [whole]
        simp

def comboEvents (keys : List Text) : List KeyInput := keys.map comboDown ++ keys.reverse.map comboUp

theorem comboDispatched (keys : List Text) : ∃ result, vscreenKeyCombo keys fails =
    some (((comboEvents keys).take (delivered fails (2 * keys.length))).map keySent,result) := by
  have total : delivered fails (2 * keys.length) = came fails 0 (keys.length + keys.length) := by
    rw [deliveredCame,Nat.two_mul]
  rw [vscreenKeyCombo,total,cameAppend]
  cases keys with
  | nil => exact ⟨_,rfl⟩
  | cons key keys =>
    obtain ⟨pressed,downs,allDown⟩ := dispatchedKeys fails comboDown 0 (key::keys)
    obtain ⟨released,ups,allUp⟩ := dispatchedKeys fails comboUp (key::keys).length (key::keys).reverse
    rw [downs,ups]
    cases pressed with
    | error e =>
      have cut : ¬ came fails 0 (key::keys).length = (key::keys).length := mt allDown.mpr (by simp)
      have bound := cameBound fails 0 (key::keys).length
      refine ⟨.error e,?_⟩
      rw [if_neg cut,comboEvents,List.take_append_of_le_length (by rwa [List.length_map])]
      rfl
    | ok done =>
      have whole := allDown.mp rfl
      have count : (key::keys).length = ((key::keys).map comboDown).length := by rw [List.length_map]
      have sent : ((comboEvents (key::keys)).take ((key::keys).length + came fails (0 + (key::keys).length)
          (key::keys).length)).map keySent =
            (((key::keys).map comboDown).take (came fails 0 (key::keys).length)).map keySent ++
              (((key::keys).reverse.map comboUp).take
                (came fails (key::keys).length (key::keys).reverse.length)).map keySent := by
        rw [comboEvents,List.take_append,← count,List.take_of_length_le (by rw [← count]; omega),whole,
          List.take_of_length_le (Nat.le_of_eq count.symm),List.map_append,Nat.zero_add,Nat.add_sub_cancel_left,
          List.length_reverse]
      rw [if_pos whole,sent]
      cases released with
      | error e => exact ⟨.error e,rfl⟩
      | ok done => exact ⟨_,rfl⟩

end Dispatch

def Unmodified (held : List Text) : Prop := ∀ p ∈ modifierKeys, p.1.toList ∉ held

theorem unmasked {held : List Text} : modifierMask held = 0 ↔ Unmodified held := by
  have bits : ∀ p ∈ modifierKeys, p.2 ≠ 0 := by decide
  rw [modifierMask,List.sum_eq_zero_iff_forall_eq_nat,List.forall_mem_map,Unmodified]
  refine forall₂_congr fun p listed => ?_
  rw [ite_eq_right_iff,List.contains_iff_mem]
  exact ⟨fun zero member => bits p listed (zero member),fun free member => (free member).elim⟩

theorem comboModifiers (key : Text) :
    (keySent (comboDown key)).2.modifiers = 0 ∧ (keySent (comboUp key)).2.modifiers = 0 := by
  obtain ⟨vk,found⟩ := keyToVkTotal key
  have down := keySentSome (comboDown key)
  have up := keySentSome (comboUp key)
  rw [comboDown,keyDownParams found] at down
  rw [comboUp,keyUpParams found] at up
  exact ⟨congrArg DispatchKeyEventParams.modifiers (Option.some.inj down).symm,
    congrArg DispatchKeyEventParams.modifiers (Option.some.inj up).symm⟩

theorem rightMember {held : List Text} {sent : List KeySent} (right : KeysRight held sent) :
    ∀ o ∈ sent, ∃ before, KeyRight (o.1.after before) o := by
  induction sent generalizing held with
  | nil => exact fun o absent => by cases absent
  | cons o rest ih => exact List.forall_mem_cons.mpr ⟨⟨held,right.1⟩,ih right.2⟩

theorem plainRight {held : List Text} {o : KeySent} (plain : Unmodified held) (zero : o.2.modifiers = 0) :
    KeyRight held o where
  modifiers := by rw [zero,unmasked.mpr plain]; rfl
  text := by
    rintro c code m - ⟨name,command,member⟩
    have listed : name ∈ modifierKeys.map Prod.fst :=
      forallListed (p := fun name => name ∈ modifierKeys.map Prod.fst) (l := commandKeys) (by decide) name command
    obtain ⟨p,there,rfl⟩ := List.mem_map.mp listed
    exact (plain p there member).elim

theorem plainKeysRight {held : List Text} {events : List KeyInput} (plain : Unmodified held)
    (combo : ∀ e ∈ events, (∃ key, e = comboDown key ∧ ∀ p ∈ modifierKeys, key ≠ p.1.toList) ∨
      ∃ key, e = comboUp key) :
    KeysRight held (events.map keySent) := by
  induction events generalizing held with
  | nil => trivial
  | cons e rest ih =>
    obtain ⟨first,later⟩ := List.forall_mem_cons.mp combo
    rcases first with ⟨key,rfl,other⟩ | ⟨key,rfl⟩
    · have still : Unmodified (key::held) := by
        intro p listed member
        rcases List.mem_cons.mp member with same | member
        · exact other p listed same.symm
        · exact plain p listed member
      exact ⟨plainRight still (comboModifiers key).1,ih still later⟩
    · have still : Unmodified (held.filter (· ≠ key)) := fun p listed member =>
        plain p listed (List.mem_of_mem_filter member)
      exact ⟨plainRight still (comboModifiers key).2,ih still later⟩

section Sent
variable {keys : List Text} {n : Nat} {key : Text}

theorem takenEvents (keys : List Text) (n : Nat) : (comboEvents keys).take n =
    (keys.take n).map comboDown ++ (keys.reverse.take (n - keys.length)).map comboUp := by
  rw [comboEvents,List.take_append,List.length_map,List.map_take,List.map_take]

theorem pressTaken : comboDown key ∈ (comboEvents keys).take n ↔ key ∈ keys.take n := by
  rw [takenEvents,List.mem_append]
  constructor
  · rintro (down | up)
    · obtain ⟨key',member,same⟩ := List.mem_map.mp down
      cases same
      exact member
    · obtain ⟨key',-,other⟩ := List.mem_map.mp up
      cases other
  · exact fun member => .inl (List.mem_map_of_mem member)

theorem releaseTaken : comboUp key ∈ (comboEvents keys).take n ↔ key ∈ keys.reverse.take (n - keys.length) := by
  rw [takenEvents,List.mem_append]
  constructor
  · rintro (down | up)
    · obtain ⟨key',-,other⟩ := List.mem_map.mp down
      cases other
    · obtain ⟨key',member,same⟩ := List.mem_map.mp up
      cases same
      exact member
  · exact fun member => .inr (List.mem_map_of_mem member)

end Sent

theorem combosRight (keys : List Text) (fails : Nat → Option Text) :
    (∃ sent result, vscreenKeyCombo keys fails = some (sent,result) ∧ Combined keys sent) ↔ ComboFits keys fails := by
  obtain ⟨result,dispatched⟩ := comboDispatched fails keys
  rw [ComboFits]
  generalize delivered fails (2 * keys.length) = n at dispatched
  have actions : (((comboEvents keys).take n).map keySent).map Prod.fst = (comboEvents keys).take n := by
    rw [List.map_map]
    exact List.map_id _
  constructor
  · rintro ⟨sent,result',same,combined⟩ key pressed
    cases dispatched.symm.trans same
    have down : comboDown key ∈ (comboEvents keys).take n := pressTaken.mpr pressed
    refine ⟨?_,?_⟩
    · rintro p listed rfl
      obtain ⟨before,right⟩ := rightMember combined.right _ (List.mem_map_of_mem down)
      have masked := right.modifiers
      rw [(comboModifiers _).1] at masked
      exact unmasked.mp masked.symm p listed List.mem_cons_self
    · obtain ⟨before,after,split,-⟩ := combined.released key (by rwa [actions])
      rw [actions] at split
      exact releaseTaken.mp (split ▸ List.mem_append_right _ List.mem_cons_self)
  · intro fits
    refine ⟨_,result,dispatched,?_,?_,?_⟩
    · rw [actions]
      exact List.take_prefix _ _
    · refine plainKeysRight (fun p listed absent => by cases absent) fun e member => ?_
      rw [takenEvents,List.mem_append,List.mem_map,List.mem_map] at member
      rcases member with ⟨key,pressed,rfl⟩ | ⟨key,-,rfl⟩
      · exact .inl ⟨key,rfl,(fits key pressed).1⟩
      · exact .inr ⟨key,rfl⟩
    · intro key down
      rw [actions] at down ⊢
      have released := (fits key (pressTaken.mp down)).2
      obtain ⟨before,after,split⟩ := List.append_of_mem released
      refine ⟨(keys.take n).map comboDown ++ before.map comboUp,after.map comboUp,?_,by simp [comboDown,comboUp]⟩
      rw [takenEvents,split,List.map_append,List.map_cons,List.append_assoc]

theorem comboSticks :
    (¬ ∃ sent result, vscreenKeyCombo ["Control".toList,"a".toList] (fun _ => none) = some (sent,result) ∧
        Combined ["Control".toList,"a".toList] sent) ∧
      ¬ ∃ sent result, vscreenKeyCombo ["a".toList,"b".toList] (fun i => if i = 3 then some "closed".toList else none) =
          some (sent,result) ∧ Combined ["a".toList,"b".toList] sent := by
  constructor
  · rintro ⟨sent,result,dispatched,combined⟩
    have masks : (vscreenKeyCombo ["Control".toList,"a".toList] (fun _ => none)).map (fun r => r.1.map (·.2.modifiers)) =
        some [0,0,0,0] := by decide +kernel
    have first : (vscreenKeyCombo ["Control".toList,"a".toList] (fun _ => none)).map (fun r => r.1.map Prod.fst) =
        some [comboDown "Control".toList,comboDown "a".toList,comboUp "a".toList,comboUp "Control".toList] := by
      decide +kernel
    rw [dispatched,Option.map_some,Option.some.injEq] at masks first
    cases sent with
    | nil => cases first
    | cons o rest =>
      have masked := combined.right.1.modifiers
      have zero : o.2.modifiers = 0 := (List.cons.inj masks).1
      have press : o.1 = comboDown "Control".toList := (List.cons.inj first).1
      rw [zero,press] at masked
      exact absurd masked (by decide)
  · rintro ⟨sent,result,dispatched,combined⟩
    have events : (vscreenKeyCombo ["a".toList,"b".toList] (fun i => if i = 3 then some "closed".toList else none)).map
        (fun r => r.1.map Prod.fst) = some [comboDown "a".toList,comboDown "b".toList,comboUp "b".toList] := by
      decide +kernel
    rw [dispatched,Option.map_some,Option.some.injEq] at events
    obtain ⟨before,after,split,-⟩ := combined.released "a".toList (events ▸ List.mem_cons_self)
    have released : comboUp "a".toList ∈ sent.map Prod.fst := split ▸ List.mem_append_right _ List.mem_cons_self
    rw [events] at released
    exact absurd released (by decide)

end Vscreen.Cdp
