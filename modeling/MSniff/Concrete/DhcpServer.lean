/-
What the client makes of well-formed answers: every option of a server's message is
read for what it means, whatever options stand before it and in whatever order.
-/

import MSniff.Concrete.DhcpResponse

namespace MSniff.Concrete.Dhcp

open ByteOrder EthernetTask Receive TagLengthValue

/-! ### The meaning of an option -/

def addressOf (value : List UInt8) : IPAddress := ⟨fun place => value.getD place 0⟩

def wordOf (value : List UInt8) : UInt32 :=
  swap (ofLittleEndian (value.getD 0 0) (value.getD 1 0) (value.getD 2 0) (value.getD 3 0))

def applyItem (remoteIP : IPAddress) (parse : Parse) (item : Item) : Parse :=
  let client := parse.client
  match labelOf item.tag with
  | .messageType => { parse with type := item.value.getD 0 0 }
  | .subnetMask => { parse with client := { client with subnetMask := addressOf item.value } }
  | .routersOnSubnet => { parse with client := { client with gatewayIp := addressOf item.value } }
  | .dns => { parse with client := { client with dnsServerIp := addressOf item.value } }
  | .serverIdentifier =>
      if knowsServer client remoteIP then
        { parse with client := { client with dhcpServerIp := addressOf item.value } }
      else parse
  | .t1value => { parse with client := { client with t1 := wordOf item.value } }
  | .t2value => { parse with client := { client with t2 := wordOf item.value } }
  | .ipAddrLeaseTime =>
      { parse with
        client :=
          { client with
            leaseTime := wordOf item.value
            renewInSec := (wordOf item.value).toInt32 } }
  | .endOption => parse
  | .padOption => parse
  | .default => parse

/-- The lengths that the protocol prescribes. -/
def Regular (item : Item) : Prop :=
  match labelOf item.tag with
  | .messageType => item.value.length = 1
  | .subnetMask => item.value.length = 4
  | .serverIdentifier => item.value.length = 4
  | .t1value => item.value.length = 4
  | .t2value => item.value.length = 4
  | .ipAddrLeaseTime => item.value.length = 4
  | .routersOnSubnet => 4 ≤ item.value.length
  | .dns => 4 ≤ item.value.length
  | .endOption => True
  | .padOption => True
  | .default => True

/-! ### Undisturbed reads -/

variable {remoteIP : IPAddress} {parse : Parse} {item : Item} {items : List Item}
  {bytes rest : List UInt8}

theorem readByte_cons (first : UInt8) (rest : List UInt8) :
    (⟨first :: rest, []⟩ : Input).readByte = (first, ⟨rest, []⟩) := rfl

theorem readBuf_take {len : Nat} (nonempty : bytes ≠ []) :
    (⟨bytes, []⟩ : Input).readBuf len = (bytes.take len, ⟨bytes.drop len, []⟩) := by
  cases bytes with
  | nil => exact absurd rfl nonempty
  | cons first rest => rfl

theorem skip_drop (bytes : List UInt8) (count : Nat) :
    (⟨bytes, []⟩ : Input).skip count = ⟨bytes.drop count, []⟩ := by
  induction count generalizing bytes with
  | zero => rfl
  | succ count ih =>
      cases bytes with
      | nil =>
          change (⟨[], []⟩ : Input).skip count = ⟨[], []⟩
          rw [ih, List.drop_nil]
      | cons first rest => exact ih rest

theorem overwrite_take {value : List UInt8} (full : 4 ≤ value.length) (address : IPAddress) :
    overwrite address (value.take 4) = addressOf value := by
  have places : (fun place : Fin 4 => (value.take 4).getD place (address.bytes place)) =
      fun place : Fin 4 => value.getD place 0 := by
    funext place
    have inside : place.val < value.length := Nat.lt_of_lt_of_le place.isLt full
    have inTaken : place.val < (value.take 4).length := by
      rw [List.length_take]
      exact Nat.lt_min.mpr ⟨place.isLt, inside⟩
    rw [List.getD_eq_getElem _ _ inTaken, List.getD_eq_getElem _ _ inside, List.getElem_take]
  rw [overwrite, addressOf, places]

theorem overwriteWord_of_length {value : List UInt8} (full : value.length = 4) (word : UInt32) :
    ntohl (overwriteWord word value) = wordOf value := by
  match value, full with
  | [_, _, _, _], _ => rfl

theorem wordOf_bigEndian (word : UInt32) : wordOf (bigEndian word) = word :=
  swap_ofLittleEndian word

/-! ### One option -/

theorem labelOf_of_plain (plain : item.Plain Tag.pad Tag.finish) :
    labelOf item.tag ≠ .endOption ∧ labelOf item.tag ≠ .padOption := by
  have notFinish := plain.notClosing
  have notPad := plain.notPadding
  unfold labelOf
  grind

theorem readBuf_four {value : List UInt8} (full : 4 ≤ value.length) (rest : List UInt8) :
    (⟨value ++ rest, []⟩ : Input).readBuf 4 = (value.take 4, ⟨value.drop 4 ++ rest, []⟩) := by
  have nonempty : value ++ rest ≠ [] := by
    apply List.append_ne_nil_of_left_ne_nil
    exact List.ne_nil_of_length_pos (by omega)
  rw [readBuf_take nonempty, List.take_append_of_le_length full, List.drop_append_of_le_length full]

theorem drop_four {value : List UInt8} (full : value.length = 4) : value.drop 4 = [] :=
  List.drop_of_length_le (by omega)

/-- The client's turn for a regular option applies it and stops behind it. -/
theorem option_item (plain : item.Plain Tag.pad Tag.finish) (regular : Regular item) :
    option remoteIP parse ⟨UInt8.ofNat item.value.length :: (item.value ++ rest), []⟩
      (labelOf item.tag) = (applyItem remoteIP parse item, ⟨rest, []⟩) := by
  have length := toNat_length plain.short
  have notSpecial := labelOf_of_plain plain
  have skipped : (⟨item.value.drop 4 ++ rest, []⟩ : Input).skip (item.value.length - 4) =
      ⟨rest, []⟩ := by
    rw [skip_drop, ← List.length_drop, List.drop_left]
  unfold Regular at regular
  unfold applyItem
  cases label : labelOf item.tag with
  | endOption => exact absurd label notSpecial.1
  | padOption => exact absurd label notSpecial.2
  | messageType =>
      rw [label] at regular
      obtain ⟨type, single⟩ := List.length_eq_one_iff.mp regular
      rw [single]
      rfl
  | subnetMask =>
      rw [label] at regular
      have full : 4 ≤ item.value.length := Nat.le_of_eq regular.symm
      simp only [option, readByte_cons, readBuf_four full, overwrite_take full, drop_four regular,
        List.nil_append]
  | routersOnSubnet =>
      rw [label] at regular
      have full : 4 ≤ item.value.length := regular
      simp only [option, readByte_cons, readBuf_four full, overwrite_take full, length, skipped]
  | dns =>
      rw [label] at regular
      have full : 4 ≤ item.value.length := regular
      simp only [option, readByte_cons, readBuf_four full, overwrite_take full, length, skipped]
  | serverIdentifier =>
      rw [label] at regular
      have full : 4 ≤ item.value.length := Nat.le_of_eq regular.symm
      by_cases known : knowsServer parse.client remoteIP
      · simp only [option, known, if_true, readByte_cons, readBuf_four full, overwrite_take full,
          drop_four regular, List.nil_append]
      · simp only [option, known, if_false, readByte_cons, length, skip_drop, List.drop_left]
  | t1value =>
      rw [label] at regular
      have full : 4 ≤ item.value.length := Nat.le_of_eq regular.symm
      simp only [option, readByte_cons, readBuf_four full, List.take_of_length_le regular.le,
        overwriteWord_of_length regular, drop_four regular, List.nil_append]
  | t2value =>
      rw [label] at regular
      have full : 4 ≤ item.value.length := Nat.le_of_eq regular.symm
      simp only [option, readByte_cons, readBuf_four full, List.take_of_length_le regular.le,
        overwriteWord_of_length regular, drop_four regular, List.nil_append]
  | ipAddrLeaseTime =>
      rw [label] at regular
      have full : 4 ≤ item.value.length := Nat.le_of_eq regular.symm
      simp only [option, readByte_cons, readBuf_four full, List.take_of_length_le regular.le,
        overwriteWord_of_length regular, drop_four regular, List.nil_append]
  | default => simp only [option, readByte_cons, length, skip_drop, List.drop_left]

/-! ### All options -/

theorem optionsLoop_nil (fuel : Nat) :
    optionsLoop remoteIP fuel parse ⟨[], []⟩ = (parse, ⟨[], []⟩) := by
  cases fuel with
  | zero => rfl
  | succ fuel => rfl

theorem optionsLoop_cons (fuel : Nat) (code : UInt8) :
    optionsLoop remoteIP (fuel + 1) parse ⟨code :: rest, []⟩ =
      optionsLoop remoteIP fuel (option remoteIP parse ⟨rest, []⟩ (labelOf code)).1
        (option remoteIP parse ⟨rest, []⟩ (labelOf code)).2 := rfl

theorem optionsLoop_pads (count fuel : Nat) :
    optionsLoop remoteIP fuel parse ⟨List.replicate count Tag.pad, []⟩ =
      (parse, ⟨List.replicate (count - fuel) Tag.pad, []⟩) := by
  induction fuel generalizing count with
  | zero => rfl
  | succ fuel ih =>
      cases count with
      | zero =>
          rw [Nat.zero_sub]
          exact optionsLoop_nil _
      | succ count =>
          rw [Nat.succ_sub_succ, ← ih]
          rfl

/-- However the options are written down, the client applies them in their order. -/
theorem optionsLoop_encodes (encodes : Encodes Tag.pad Tag.finish bytes items)
    (regular : ∀ item ∈ items, Regular item) {fuel : Nat} (enough : bytes.length ≤ fuel) :
    optionsLoop remoteIP fuel parse ⟨bytes, []⟩ =
      (items.foldl (applyItem remoteIP) parse, ⟨[], []⟩) := by
  induction encodes generalizing fuel parse with
  | closed count =>
      cases fuel with
      | zero => exact absurd enough (Nat.not_succ_le_zero _)
      | succ fuel =>
          have within := Nat.le_of_succ_le_succ enough
          rw [List.length_replicate] at within
          calc
            optionsLoop remoteIP (fuel + 1) parse ⟨Tag.finish :: List.replicate count Tag.pad, []⟩
                = optionsLoop remoteIP fuel parse ⟨List.replicate count Tag.pad, []⟩ := rfl
            _ = (parse, ⟨List.replicate (count - fuel) Tag.pad, []⟩) := optionsLoop_pads count fuel
            _ = (parse, ⟨[], []⟩) := by rw [Nat.sub_eq_zero_of_le within, List.replicate_zero]
  | @padded bytes items rest ih =>
      cases fuel with
      | zero => exact absurd enough (Nat.not_succ_le_zero _)
      | succ fuel =>
          calc
            optionsLoop remoteIP (fuel + 1) parse ⟨Tag.pad :: bytes, []⟩
                = optionsLoop remoteIP fuel parse ⟨bytes, []⟩ := rfl
            _ = _ := ih regular (Nat.le_of_succ_le_succ enough)
  | @item bytes items item plain rest ih =>
      rw [List.forall_mem_cons] at regular
      cases fuel with
      | zero => exact absurd enough (Nat.not_succ_le_zero _)
      | succ fuel =>
          have within : bytes.length ≤ fuel := by
            simp only [Item.bytes, List.cons_append, List.length_cons, List.length_append] at enough
            omega
          have turn := @option_item remoteIP parse item bytes plain regular.1
          rw [Item.bytes, List.cons_append, List.cons_append, optionsLoop_cons, turn,
            List.foldl_cons]
          exact ih regular.2 within

/-! ### A whole answer -/

/-- A server's message to the client with this hardware address. -/
structure Carries (bytes : List UInt8) (xid : UInt32) (address : IPAddress)
    (macAddr : Fin 6 → UInt8) (items : List Item) : Prop where
  op : field bytes 0 1 = [bootReply]
  xid : field bytes 4 4 = bigEndian xid
  yiaddr : field bytes 16 4 = addressBytes address
  chaddr : field bytes 28 6 = List.ofFn macAddr
  options : Encodes Tag.pad Tag.finish (bytes.drop 240) items
  regular : ∀ item ∈ items, Regular item

variable {xid : UInt32} {address : IPAddress} {macAddr : Fin 6 → UInt8} {stack : Nat → UInt8}

theorem addressOf_addressBytes (address : IPAddress) : addressOf (addressBytes address) = address := by
  have places : (fun place : Fin 4 => (addressBytes address).getD place 0) = address.bytes := by
    funext place
    have inside : place.val < (addressBytes address).length := by
      rw [addressBytes, List.length_ofFn]
      exact place.isLt
    rw [List.getD_eq_getElem _ _ inside]
    exact List.getElem_ofFn inside
  rw [addressOf, places]

theorem Carries.long (carries : Carries bytes xid address macAddr items) : 240 < bytes.length := by
  have options := List.length_pos_iff.mpr carries.options.ne_nil
  rw [List.length_drop] at options
  omega

theorem fixedMsg_field {start count place : Nat} (long : 240 < bytes.length) (inside : place < count)
    (within : start + count ≤ fixedSize) :
    writeBuffer stack (bytes.take fixedSize) (start + place) =
      (field bytes start count).getD place 0 := by
  have size : fixedSize = 36 := rfl
  have inTaken : start + place < (bytes.take fixedSize).length := by
    rw [List.length_take]
    omega
  have inField : place < (field bytes start count).length := by
    rw [field, List.length_take, List.length_drop]
    omega
  rw [writeBuffer, List.getD_eq_getElem _ _ inTaken, List.getD_eq_getElem _ _ inField,
    List.getElem_take]
  simp only [field, List.getElem_take, List.getElem_drop]

theorem Carries.transactionIdOf (carries : Carries bytes xid address macAddr items) :
    transactionIdOf (writeBuffer stack (bytes.take fixedSize)) = xid := by
  have place {place : Nat} (inside : place < 4) :
      writeBuffer stack (bytes.take fixedSize) (4 + place) = (bigEndian xid).getD place 0 := by
    rw [fixedMsg_field carries.long inside (by decide), carries.xid]
  calc
    Dhcp.transactionIdOf (writeBuffer stack (bytes.take fixedSize))
        = wordOf (bigEndian xid) := by
          rw [Dhcp.transactionIdOf, ← Nat.add_zero 4, place (by decide), place (by decide : 1 < 4),
            place (by decide : 2 < 4), place (by decide : 3 < 4)]
          rfl
    _ = xid := wordOf_bigEndian xid

theorem Carries.yiaddrOf (carries : Carries bytes xid address macAddr items) :
    yiaddrOf (writeBuffer stack (bytes.take fixedSize)) = address := by
  have places (place : Fin 4) : writeBuffer stack (bytes.take fixedSize) (16 + place) =
      (addressBytes address).getD place 0 := by
    rw [fixedMsg_field carries.long place.isLt (by decide), carries.yiaddr]
  rw [Dhcp.yiaddrOf, funext places]
  exact addressOf_addressBytes address

theorem Carries.chaddrOf (carries : Carries bytes xid address macAddr items) :
    chaddrOf (writeBuffer stack (bytes.take fixedSize)) = List.ofFn macAddr := by
  have places (place : Fin 6) : writeBuffer stack (bytes.take fixedSize) (28 + place) =
      macAddr place := by
    have inside : place.val < (List.ofFn macAddr).length := by
      rw [List.length_ofFn]
      exact place.isLt
    rw [fixedMsg_field carries.long place.isLt (by decide), carries.chaddr,
      List.getD_eq_getElem _ _ inside]
    exact List.getElem_ofFn inside
  rw [Dhcp.chaddrOf, funext places]

variable {client : Client}

theorem Carries.acceptable (carries : Carries bytes xid address client.macAddr items)
    (window : InWindow client xid) (stack : Nat → UInt8) :
    Acceptable client serverPort (writeBuffer stack (bytes.take fixedSize)) := by
  have op : writeBuffer stack (bytes.take fixedSize) (0 + 0) = bootReply := by
    rw [fixedMsg_field carries.long Nat.zero_lt_one (by decide), carries.op]
    rfl
  constructor
  · exact ⟨op, rfl⟩
  · unfold foreign
    rw [carries.chaddrOf, carries.transactionIdOf]
    simp only [not_or, Decidable.not_not, UInt32.not_lt]
    exact ⟨trivial, window⟩

/-- A server's answer within the window is taken for what it says: the address it
offers, and each of its options, in their order. -/
theorem parseResponse_carries (carries : Carries bytes xid address client.macAddr items)
    (window : InWindow client xid) (stack : Nat → UInt8) (remoteIP : IPAddress) :
    parseResponse stack client remoteIP serverPort ⟨bytes, []⟩ =
      let final := items.foldl (applyItem remoteIP) ⟨{ client with localIp := address }, 0⟩
      ⟨final.type, some xid, final.client, ⟨[], []⟩⟩ := by
  have nonempty : bytes ≠ [] := List.ne_nil_of_length_pos (Nat.zero_lt_of_lt carries.long)
  have read : (⟨bytes, []⟩ : Input).readBuf fixedSize =
      (bytes.take fixedSize, ⟨bytes.drop fixedSize, []⟩) := readBuf_take nonempty
  have acceptable := carries.acceptable window stack
  have skipped : (⟨bytes.drop fixedSize, []⟩ : Input).skip (240 - fixedSize) =
      ⟨bytes.drop 240, []⟩ := by
    rw [skip_drop, List.drop_drop]
    rfl
  have loop := @optionsLoop_encodes remoteIP ⟨{ client with localIp := address }, 0⟩ items
    (bytes.drop 240) carries.options carries.regular _ (Nat.le_refl _)
  rw [parseResponse, read]
  simp only [acceptable.1.1, and_self, if_true, acceptable.2, if_false, skipped,
    begun, carries.transactionIdOf, carries.yiaddrOf]
  rw [show (⟨bytes.drop 240, []⟩ : Input).size = (bytes.drop 240).length from rfl, loop]
  rfl

/-! ### Option by option -/

def Label.code : Label → Option UInt8
  | .endOption => some Tag.finish
  | .padOption => some Tag.pad
  | .messageType => some Tag.messageType
  | .subnetMask => some Tag.subnetMask
  | .routersOnSubnet => some Tag.routersOnSubnet
  | .dns => some Tag.dns
  | .serverIdentifier => some Tag.serverIdentifier
  | .t1value => some Tag.t1value
  | .t2value => some Tag.t2value
  | .ipAddrLeaseTime => some Tag.ipAddrLeaseTime
  | .default => none

theorem labelOf_code {label : Label} {code : UInt8} (named : label.code = some code) :
    labelOf code = label := by
  cases label with
  | default => cases named
  | _ =>
      obtain rfl := Option.some.inj named
      rfl

theorem code_ite {label rest : Label} {code tag : UInt8} (named : label.code = some tag)
    (other : rest = .default ∨ rest.code = some code) :
    (if code = tag then label else rest) = .default ∨
      (if code = tag then label else rest).code = some code := by
  by_cases same : code = tag
  · rw [if_pos same, same]
    exact .inr named
  · rw [if_neg same]
    exact other

theorem code_labelOf (code : UInt8) :
    labelOf code = .default ∨ (labelOf code).code = some code := by
  unfold labelOf
  repeat apply code_ite rfl
  exact .inl rfl

theorem labelOf_eq_iff {label : Label} {tag : UInt8} (named : label.code = some tag) (code : UInt8) :
    labelOf code = label ↔ code = tag := by
  constructor
  · intro same
    rcases code_labelOf code with unknown | known
    · rw [← same, unknown] at named
      cases named
    · rw [same, named] at known
      exact (Option.some.inj known).symm
  · rintro rfl
    exact labelOf_code named

/-- Part by part, what an option sets. -/
theorem applyItem_eq (parse : Parse) (item : Item) :
    applyItem remoteIP parse item =
      { type := if labelOf item.tag = .messageType then item.value.getD 0 0 else parse.type
        client :=
          { parse.client with
            subnetMask :=
              if labelOf item.tag = .subnetMask then addressOf item.value else parse.client.subnetMask
            gatewayIp :=
              if labelOf item.tag = .routersOnSubnet then addressOf item.value
              else parse.client.gatewayIp
            dnsServerIp :=
              if labelOf item.tag = .dns then addressOf item.value else parse.client.dnsServerIp
            dhcpServerIp :=
              if labelOf item.tag = .serverIdentifier ∧ knowsServer parse.client remoteIP then
                addressOf item.value
              else parse.client.dhcpServerIp
            t1 := if labelOf item.tag = .t1value then wordOf item.value else parse.client.t1
            t2 := if labelOf item.tag = .t2value then wordOf item.value else parse.client.t2
            leaseTime :=
              if labelOf item.tag = .ipAddrLeaseTime then wordOf item.value
              else parse.client.leaseTime
            renewInSec :=
              if labelOf item.tag = .ipAddrLeaseTime then (wordOf item.value).toInt32
              else parse.client.renewInSec } } := by
  unfold applyItem
  cases labelOf item.tag with
  | serverIdentifier =>
      by_cases known : knowsServer parse.client remoteIP
      · simp only [known, if_true, true_and]
        rfl
      · simp only [known, if_false, and_false]
        rfl
  | _ => simp

theorem foldl_applyItem {Meaning : Type*} (part : Parse → Meaning) {label : Label} {tag : UInt8}
    {meaning : List UInt8 → Meaning} (named : label.code = some tag)
    (sets : ∀ parse item, part (applyItem remoteIP parse item) =
      if labelOf item.tag = label then meaning item.value else part parse) (parse : Parse) :
    part (items.foldl (applyItem remoteIP) parse) = (latest tag meaning items).getD (part parse) := by
  apply @foldl_latest _ _ _ _ _ _ (fun _ => True)
  · exact fun _ _ _ _ => trivial
  · intro parse item _
    simp only [sets, labelOf_eq_iff named]
  · trivial

/-- The server that names itself is kept. -/
theorem foldl_server (known : knowsServer parse.client remoteIP)
    (honest : ∀ item ∈ items, item.tag = Tag.serverIdentifier → addressOf item.value = remoteIP) :
    (items.foldl (applyItem remoteIP) parse).client.dhcpServerIp =
      (latest Tag.serverIdentifier addressOf items).getD parse.client.dhcpServerIp := by
  have code : Label.serverIdentifier.code = some Tag.serverIdentifier := rfl
  have turn (parse : Parse) (item : Item) (known : knowsServer parse.client remoteIP) :
      (applyItem remoteIP parse item).client.dhcpServerIp =
        if item.tag = Tag.serverIdentifier then addressOf item.value
        else parse.client.dhcpServerIp := by
    simp only [applyItem_eq, known, and_true, labelOf_eq_iff code]
  apply @foldl_latest Parse IPAddress _ (fun parse : Parse => parse.client.dhcpServerIp) _ _
    (fun parse : Parse => knowsServer parse.client remoteIP)
  · intro item member parse known
    unfold knowsServer
    rw [turn parse item known]
    by_cases names : item.tag = Tag.serverIdentifier
    · rw [if_pos names, honest item member names]
      exact .inr rfl
    · rw [if_neg names]
      exact known
  · exact turn
  · exact known

theorem foldl_stranger (stranger : ¬ knowsServer parse.client remoteIP) :
    (items.foldl (applyItem remoteIP) parse).client.dhcpServerIp = parse.client.dhcpServerIp := by
  induction items generalizing parse with
  | nil => rfl
  | cons item rest ih =>
      have turn : (applyItem remoteIP parse item).client.dhcpServerIp = parse.client.dhcpServerIp := by
        simp only [applyItem_eq, stranger, and_false, if_false]
      rw [List.foldl_cons, ih, turn]
      unfold knowsServer at *
      rwa [turn]

theorem foldl_kept {Field : Type*} (part : Client → Field)
    (keeps : ∀ parse item, part (applyItem remoteIP parse item).client = part parse.client)
    (parse : Parse) : part (items.foldl (applyItem remoteIP) parse).client = part parse.client := by
  induction items generalizing parse with
  | nil => rfl
  | cons item rest ih => rw [List.foldl_cons, ih, keeps]

/-- What an answer leaves in the record: of each option the last one counts, and what no
option sets is as it was. -/
structure Understood (client : Client) (remoteIP address : IPAddress) (items : List Item)
    (final : Parse) : Prop where
  type : final.type = (latest Tag.messageType (·.getD 0 0) items).getD 0
  localIp : final.client.localIp = address
  subnetMask :
    final.client.subnetMask = (latest Tag.subnetMask addressOf items).getD client.subnetMask
  gatewayIp :
    final.client.gatewayIp = (latest Tag.routersOnSubnet addressOf items).getD client.gatewayIp
  dnsServerIp : final.client.dnsServerIp = (latest Tag.dns addressOf items).getD client.dnsServerIp
  t1 : final.client.t1 = (latest Tag.t1value wordOf items).getD client.t1
  t2 : final.client.t2 = (latest Tag.t2value wordOf items).getD client.t2
  leaseTime :
    final.client.leaseTime = (latest Tag.ipAddrLeaseTime wordOf items).getD client.leaseTime
  server : knowsServer client remoteIP →
    (∀ item ∈ items, item.tag = Tag.serverIdentifier → addressOf item.value = remoteIP) →
    final.client.dhcpServerIp =
      (latest Tag.serverIdentifier addressOf items).getD client.dhcpServerIp
  stranger : ¬ knowsServer client remoteIP → final.client.dhcpServerIp = client.dhcpServerIp
  session : SameSession client final.client

theorem understood (client : Client) (remoteIP address : IPAddress) (items : List Item) :
    Understood client remoteIP address items
      (items.foldl (applyItem remoteIP) ⟨{ client with localIp := address }, 0⟩) where
  type := by
    apply foldl_applyItem Parse.type (rfl : Label.messageType.code = _)
    simp only [applyItem_eq, implies_true]
  localIp := by
    apply foldl_kept Client.localIp
    simp only [applyItem_eq, implies_true]
  subnetMask := by
    apply foldl_applyItem (·.client.subnetMask) (rfl : Label.subnetMask.code = _)
    simp only [applyItem_eq, implies_true]
  gatewayIp := by
    apply foldl_applyItem (·.client.gatewayIp) (rfl : Label.routersOnSubnet.code = _)
    simp only [applyItem_eq, implies_true]
  dnsServerIp := by
    apply foldl_applyItem (·.client.dnsServerIp) (rfl : Label.dns.code = _)
    simp only [applyItem_eq, implies_true]
  t1 := by
    apply foldl_applyItem (·.client.t1) (rfl : Label.t1value.code = _)
    simp only [applyItem_eq, implies_true]
  t2 := by
    apply foldl_applyItem (·.client.t2) (rfl : Label.t2value.code = _)
    simp only [applyItem_eq, implies_true]
  leaseTime := by
    apply foldl_applyItem (·.client.leaseTime) (rfl : Label.ipAddrLeaseTime.code = _)
    simp only [applyItem_eq, implies_true]
  server := @foldl_server remoteIP ⟨{ client with localIp := address }, 0⟩ items
  stranger := @foldl_stranger remoteIP ⟨{ client with localIp := address }, 0⟩ items
  session := by
    constructor
    · apply foldl_kept Client.initialTransactionId
      simp only [applyItem_eq, implies_true]
    · apply foldl_kept Client.transactionId
      simp only [applyItem_eq, implies_true]
    · apply foldl_kept Client.macAddr
      simp only [applyItem_eq, implies_true]
    · apply foldl_kept Client.rebindInSec
      simp only [applyItem_eq, implies_true]
    · apply foldl_kept Client.state
      simp only [applyItem_eq, implies_true]

/-! ### A server's way of writing -/

def answerHeader (xid : UInt32) (address : IPAddress) (macAddr : Fin 6 → UInt8) : List UInt8 :=
  [bootReply, hTypeTenMb, hLenEthernet, hops] ++ bigEndian xid ++ List.replicate 8 0 ++
    addressBytes address ++ List.replicate 8 0 ++ List.ofFn macAddr ++ List.replicate 10 0 ++
    List.replicate 192 0 ++ cookie

def answer (xid : UInt32) (address : IPAddress) (macAddr : Fin 6 → UInt8) (items : List Item) :
    List UInt8 :=
  answerHeader xid address macAddr ++ (items.flatMap Item.bytes ++ [Tag.finish])

theorem answerHeader_length (xid : UInt32) (address : IPAddress) (macAddr : Fin 6 → UInt8) :
    (answerHeader xid address macAddr).length = 240 := by
  simp only [answerHeader, List.length_append, List.length_replicate, List.length_ofFn,
    addressBytes]
  rfl

theorem carries_of_encodes (encodes : Encodes Tag.pad Tag.finish bytes items)
    (regular : ∀ item ∈ items, Regular item) :
    Carries (answerHeader xid address macAddr ++ bytes) xid address macAddr items where
  op := rfl
  xid := rfl
  yiaddr := rfl
  chaddr := rfl
  options := by
    rw [List.drop_left' (answerHeader_length xid address macAddr)]
    exact encodes
  regular := regular

theorem answer_carries (plain : ∀ item ∈ items, item.Plain Tag.pad Tag.finish)
    (regular : ∀ item ∈ items, Regular item) :
    Carries (answer xid address macAddr items) xid address macAddr items :=
  carries_of_encodes (encodes_flatMap plain) regular

/-- Whatever the client held, after a server's answer in its window it holds what the
answer says. -/
theorem parseResponse_understood (carries : Carries bytes xid address client.macAddr items)
    (window : InWindow client xid) (stack : Nat → UInt8) (remoteIP : IPAddress) :
    ∃ final, Understood client remoteIP address items final ∧
      parseResponse stack client remoteIP serverPort ⟨bytes, []⟩ =
        ⟨final.type, some xid, final.client, ⟨[], []⟩⟩ :=
  ⟨_, understood client remoteIP address items, parseResponse_carries carries window stack remoteIP⟩

/-- An offer with an option that the client does not know and one given twice. -/
def offerItems : List Item :=
  [⟨Tag.subnetMask, [255, 255, 255, 0]⟩, ⟨Tag.ipAddrLeaseTime, [0, 0, 0, 60]⟩,
    ⟨Tag.domainName, [108, 97, 110]⟩, ⟨Tag.messageType, [typeOffer]⟩,
    ⟨Tag.serverIdentifier, [1, 1, 1, 1]⟩, ⟨Tag.ipAddrLeaseTime, [0, 0, 14, 16]⟩]

def paddedOffer : List UInt8 :=
  answerHeader 2 ⟨fun _ => 2⟩ blankClient.macAddr ++
    (offerItems.flatMap (fun item => Tag.pad :: item.bytes) ++
      Tag.finish :: List.replicate 3 Tag.pad)

theorem offer_understood :
    ∃ final, Understood blankClient ⟨fun _ => 1⟩ ⟨fun _ => 2⟩ offerItems final ∧
      parseResponse (fun _ => 0) blankClient ⟨fun _ => 1⟩ serverPort ⟨paddedOffer, []⟩ =
        ⟨final.type, some 2, final.client, ⟨[], []⟩⟩ := by
  have plain : ∀ item ∈ offerItems, item.Plain Tag.pad Tag.finish := by
    simp only [offerItems, List.forall_mem_cons]
    exact ⟨⟨by decide, by decide, by decide⟩, ⟨by decide, by decide, by decide⟩,
      ⟨by decide, by decide, by decide⟩, ⟨by decide, by decide, by decide⟩,
      ⟨by decide, by decide, by decide⟩, ⟨by decide, by decide, by decide⟩, List.forall_mem_nil _⟩
  have regular : ∀ item ∈ offerItems, Regular item := by
    simp only [offerItems, List.forall_mem_cons]
    exact ⟨rfl, rfl, trivial, rfl, rfl, rfl, List.forall_mem_nil _⟩
  exact parseResponse_understood (carries_of_encodes (encodes_padded plain 3) regular)
    ⟨(by decide : (1 : UInt32) ≤ 2), (by decide : (2 : UInt32) ≤ 2)⟩ (fun _ => 0) ⟨fun _ => 1⟩

end MSniff.Concrete.Dhcp
