/-
Dashboard_handleHttp up to its answer: the request line is what the memory from
the input buffer's first byte on holds before " HTTP", and its query is cut into
names and values by strtok with two delimiters in turn.
-/

import MSniff.TextScan
import MSniff.Concrete.DashboardParameters

namespace MSniff.Concrete.Dashboard

open TextScan

def questionMark : UInt8 := 63

def equalsSign : UInt8 := 61

def ampersand : UInt8 := 38

/-- " HTTP". -/
def httpText : List UInt8 := [32, 72, 84, 84, 80]

/-- The loop over the parameters: the calls it makes and how it ends. -/
def handleQuery (circumstances : Nat → Circumstances) (count : Nat) (device : Device)
    (saved : List UInt8) : List Arguments × Except Halt Device :=
  match _cuts : strtok [equalsSign] saved with
  | (none, _) => ([], .ok device)
  | (some parameter, rest) =>
      let arguments : Arguments := ⟨parameter, (strtok [ampersand] rest).1⟩
      match handleParameterChange device ⟨arguments, circumstances count⟩ with
      | .error halt => ([arguments], .error halt)
      | .ok next =>
          let (made, result) :=
            handleQuery circumstances (count + 1) next (strtok [ampersand] rest).2
          (arguments :: made, result)
termination_by saved.length
decreasing_by exact Nat.lt_of_le_of_lt (strtok_length_le _ rest) (cut_of_strtok _cuts).length_lt

structure Handled where
  bytesRead : Nat
  made : List Arguments
  result : Except Halt Device

/-- What stands before " HTTP" is terminated there, so that whatever is read of it
afterwards lies within the bytes of the search. -/
def handleHttp (circumstances : Nat → Circumstances) (device : Device) (memory : List UInt8) :
    Handled :=
  match strstr 0 httpText memory with
  | .beyond => ⟨memory.length + 1, [], .error .unterminated⟩
  | .missing before => ⟨before.length + 1, [], .error .nullDereference⟩
  | .found text =>
      let (made, result) :=
        handleQuery circumstances 0 device (strtok [questionMark] text).2
      ⟨text.length + httpText.length, made, result⟩

/-! ### One turn of the loop -/

variable {circumstances : Nat → Circumstances} {count : Nat} {device next : Device}
  {saved parameter rest : List UInt8} {halt : Halt}

theorem handleQuery_none (none : (strtok [equalsSign] saved).1 = none) :
    handleQuery circumstances count device saved = ([], .ok device) := by
  unfold handleQuery
  split
  · rfl
  · rename_i some
    rw [some] at none
    cases none

theorem handleQuery_error (cuts : strtok [equalsSign] saved = (some parameter, rest))
    (fails : handleParameterChange device
      ⟨⟨parameter, (strtok [ampersand] rest).1⟩, circumstances count⟩ = .error halt) :
    handleQuery circumstances count device saved =
      ([⟨parameter, (strtok [ampersand] rest).1⟩], .error halt) := by
  rw [handleQuery]
  split
  · rename_i none
    rw [cuts] at none
    cases none
  · rename_i some
    cases cuts.symm.trans some
    simp only [fails]

theorem handleQuery_ok (cuts : strtok [equalsSign] saved = (some parameter, rest))
    (succeeds : handleParameterChange device
      ⟨⟨parameter, (strtok [ampersand] rest).1⟩, circumstances count⟩ = .ok next) :
    handleQuery circumstances count device saved =
      let later := handleQuery circumstances (count + 1) next (strtok [ampersand] rest).2
      (⟨parameter, (strtok [ampersand] rest).1⟩ :: later.1, later.2) := by
  rw [handleQuery]
  split
  · rename_i none
    rw [cuts] at none
    cases none
  · rename_i some
    cases cuts.symm.trans some
    simp only [succeeds]

def inCircumstances (circumstances : Nat → Circumstances) : Nat → List Arguments → List Call
  | _, [] => []
  | count, arguments :: rest =>
      ⟨arguments, circumstances count⟩ :: inCircumstances circumstances (count + 1) rest

/-- The loop ends as the sequence of the calls it makes does. -/
theorem handleQuery_result (circumstances : Nat → Circumstances) (count : Nat) (device : Device)
    (saved : List UInt8) :
    (handleQuery circumstances count device saved).2 =
      handleParameters device (inCircumstances circumstances count
        (handleQuery circumstances count device saved).1) := by
  fun_induction handleQuery circumstances count device saved with
  | case1 => rfl
  | case2 count device saved parameter rest cuts arguments halt fails =>
      exact (FallibleRun.run_cons_error fails).symm
  | case3 count device saved parameter rest cuts arguments next succeeds made result later ih =>
      rw [later] at ih
      exact ih.trans (FallibleRun.run_cons_ok succeeds).symm

/-! ### Submitted forms -/

/-- The characters that stand for themselves in no name and no value: the terminator,
the space and the three delimiters. -/
def reserved : List UInt8 := [0, 32, questionMark, equalsSign, ampersand]

structure QueryPair where
  name : List UInt8
  value : List UInt8
  nameNonempty : name ≠ []
  nameFree : ∀ c ∈ name, c ∉ reserved
  valueFree : ∀ c ∈ value, c ∉ reserved

def QueryPair.text (pair : QueryPair) : List UInt8 := pair.name ++ equalsSign :: pair.value

def QueryPair.arguments (pair : QueryPair) : Arguments := ⟨pair.name, some pair.value⟩

def queryText (pairs : List QueryPair) : List UInt8 :=
  [ampersand].intercalate (pairs.map QueryPair.text)

/-- "GET /" and the query. -/
def requestText (pairs : List QueryPair) : List UInt8 :=
  [71, 69, 84, 32, 47] ++ questionMark :: queryText pairs

def requestLine (pairs : List QueryPair) : List UInt8 :=
  requestText pairs ++ httpText ++ [47, 49, 46, 49]

def tailText : List QueryPair → List UInt8
  | [] => []
  | pair :: rest => ampersand :: queryText (pair :: rest)

theorem queryText_cons (pair : QueryPair) (rest : List QueryPair) :
    queryText (pair :: rest) = pair.name ++ equalsSign :: (pair.value ++ tailText rest) := by
  cases rest with
  | nil => simp [queryText, tailText, QueryPair.text]
  | cons next rest => simp [queryText, tailText, QueryPair.text]

theorem QueryPair.cutName (pair : QueryPair) (behind : List UInt8) :
    strtok [equalsSign] (pair.name ++ equalsSign :: behind) = (some pair.name, behind) := by
  have plain : equalsSign ∉ pair.name :=
    fun member => pair.nameFree equalsSign member (by decide)
  exact strtok_delimited pair.nameNonempty (forall_not_mem_singleton_iff.mpr plain)
    (List.mem_singleton_self _) behind

theorem QueryPair.cutValue (pair : QueryPair) (nonempty : pair.value ≠ [])
    (rest : List QueryPair) :
    strtok [ampersand] (pair.value ++ tailText rest) = (some pair.value, queryText rest) := by
  have free : ampersand ∉ pair.value :=
    fun member => pair.valueFree ampersand member (by decide)
  have plain := forall_not_mem_singleton_iff.mpr free
  cases rest with
  | nil =>
      rw [tailText, List.append_nil]
      exact strtok_last nonempty plain
  | cons next rest => exact strtok_delimited nonempty plain (List.mem_singleton_self _) _

theorem handleQuery_first (circumstances : Nat → Circumstances) (count : Nat) (device : Device)
    (cuts : strtok [equalsSign] saved = (some parameter, rest)) :
    ∃ later, (handleQuery circumstances count device saved).1 =
      ⟨parameter, (strtok [ampersand] rest).1⟩ :: later := by
  cases outcome : handleParameterChange device
      ⟨⟨parameter, (strtok [ampersand] rest).1⟩, circumstances count⟩ with
  | error halt =>
      rw [handleQuery_error cuts outcome]
      exact ⟨[], rfl⟩
  | ok next =>
      rw [handleQuery_ok cuts outcome]
      exact ⟨_, rfl⟩

/-- No pair but the last restarts the session, and every value is there. -/
structure Decodable (pairs : List QueryPair) : Prop where
  nonempty : ∀ pair ∈ pairs, pair.value ≠ []
  restartsLast : ∀ pair ∈ pairs.dropLast, ¬ Restarts pair.arguments

theorem decodable_cons {pair : QueryPair} {rest : List QueryPair} :
    Decodable (pair :: rest) ↔
      pair.value ≠ [] ∧ (rest ≠ [] → ¬ Restarts pair.arguments) ∧ Decodable rest := by
  cases rest with
  | nil =>
      constructor
      · intro decodable
        exact ⟨decodable.nonempty pair List.mem_cons_self, nofun, nofun, nofun⟩
      · intro parts
        rcases parts with ⟨nonempty, _, _⟩
        exact ⟨List.forall_mem_singleton.mpr nonempty, nofun⟩
  | cons next rest =>
      constructor
      · intro decodable
        have nonempty := List.forall_mem_cons.mp decodable.nonempty
        have restartsLast := List.forall_mem_cons.mp decodable.restartsLast
        exact ⟨nonempty.1, fun _ => restartsLast.1, nonempty.2, restartsLast.2⟩
      · intro parts
        rcases parts with ⟨nonempty, notRestarts, decodable⟩
        constructor
        · exact List.forall_mem_cons.mpr ⟨nonempty, decodable.nonempty⟩
        · exact List.forall_mem_cons.mpr
            ⟨notRestarts (List.cons_ne_nil _ _), decodable.restartsLast⟩

theorem handleQuery_made_iff (spiOpen : device.spiOpen = true) (pairs : List QueryPair) :
    (handleQuery circumstances count device (queryText pairs)).1 =
      pairs.map QueryPair.arguments ↔ Decodable pairs := by
  induction pairs generalizing count device with
  | nil =>
      rw [show queryText [] = [] from rfl, handleQuery_none rfl]
      exact iff_of_true rfl ⟨nofun, nofun⟩
  | cons pair rest ih =>
      have cuts := pair.cutName (pair.value ++ tailText rest)
      rw [queryText_cons, decodable_cons, List.map_cons]
      by_cases empty : pair.value = []
      -- strtok passes over the delimiter behind an empty value, so the next pair is the value.
      · obtain ⟨later, made⟩ :=
          handleQuery_first circumstances count device cuts
        rw [made]
        apply iff_of_false
        · intro same
          injection same with sameFirst
          injection sameFirst with _ sameValue
          rw [empty] at sameValue
          exact strtok_nonempty _ _ sameValue
        · exact fun decodable => decodable.1 empty
      · have value := pair.cutValue empty rest
        have given : (strtok [ampersand] (pair.value ++ tailText rest)).1 = some pair.value := by
          rw [value]
        rcases handleParameterChange_cases ⟨pair.arguments, circumstances count⟩ spiOpen with
          ⟨⟨_, null⟩, _⟩ | ⟨_, restarts, halts⟩ | ⟨_, continues, next, returns, nextOpen⟩
        · cases null
        · rw [handleQuery_error cuts (by rw [given]; exact halts), given]
          cases rest with
          | nil => exact iff_of_true rfl ⟨empty, nofun, nofun, nofun⟩
          | cons later rest =>
              apply iff_of_false
              · intro same
                injection same with _ none
                cases none
              · exact fun decodable => decodable.2.1 (List.cons_ne_nil _ _) restarts
        · have laterIff := @ih (count + 1) next nextOpen
          rw [handleQuery_ok cuts (by rw [given]; exact returns), value]
          constructor
          · intro same
            injection same with _ made
            exact ⟨empty, fun _ => continues, laterIff.mp made⟩
          · intro parts
            rcases parts with ⟨_, _, decodable⟩
            exact congrArg (pair.arguments :: ·) (laterIff.mpr decodable)

/-! ### Request lines -/

theorem handleHttp_found {text memory : List UInt8}
    (found : strstr 0 httpText memory = .found text) :
    handleHttp circumstances device memory =
      ⟨text.length + httpText.length,
        (handleQuery circumstances 0 device (strtok [questionMark] text).2).1,
        (handleQuery circumstances 0 device (strtok [questionMark] text).2).2⟩ := by
  unfold handleHttp
  rw [found]

theorem reserved_not_mem_queryText (c : UInt8) (isReserved : c ∈ reserved)
    (notEquals : c ≠ equalsSign) (notAmpersand : c ≠ ampersand) (pairs : List QueryPair) :
    c ∉ queryText pairs := by
  induction pairs with
  | nil => exact List.not_mem_nil
  | cons pair rest ih =>
      have tail : c ∉ tailText rest := by
        cases rest with
        | nil => exact List.not_mem_nil
        | cons next rest => exact fun member => (List.mem_cons.mp member).elim notAmpersand ih
      rw [queryText_cons, List.mem_append, List.mem_cons, List.mem_append]
      intro member
      rcases member with inName | isEquals | inValue | inTail
      · exact pair.nameFree c inName isReserved
      · exact notEquals isEquals
      · exact pair.valueFree c inValue isReserved
      · exact tail inTail

theorem strstr_requestLine (pairs : List QueryPair) (behind : List UInt8) :
    strstr 0 httpText (requestLine pairs ++ behind) = .found (requestText pairs) := by
  have noTerminator : 0 ∉ queryText pairs :=
    reserved_not_mem_queryText 0 List.mem_cons_self nofun nofun pairs
  have noSpace : 32 ∉ queryText pairs :=
    reserved_not_mem_queryText 32 (List.mem_cons_of_mem _ List.mem_cons_self) nofun nofun pairs
  have method : ∀ rest, strstr 0 httpText ([71, 69, 84] ++ rest) =
      (strstr 0 httpText rest).prepend [71, 69, 84] :=
    fun _ => strstr_append_of_first_not_mem (by decide) (by decide)
  have path : ∀ rest,
      strstr 0 httpText (47 :: questionMark :: queryText pairs ++ httpText ++ rest) =
        .found (47 :: questionMark :: queryText pairs) := by
    intro rest
    unfold httpText
    rw [List.append_assoc, strstr_append_of_first_not_mem,
      strstr_here (List.prefix_append _ _)]
    · exact congrArg Search.found (List.append_nil _)
    · simp [noTerminator, questionMark]
    · simp [noSpace, questionMark]
  have whole : requestLine pairs ++ behind = [71, 69, 84] ++ (32 ::
      (47 :: questionMark :: queryText pairs ++ httpText ++ ([47, 49, 46, 49] ++ behind))) := by
    simp [requestLine, requestText]
  rw [whole, method, strstr_cons (by decide) (by simp [httpText]), path]
  rfl

theorem strtok_requestText (pairs : List QueryPair) :
    (strtok [questionMark] (requestText pairs)).2 = queryText pairs := by
  unfold requestText
  have plain : questionMark ∉ [71, 69, 84, 32, 47] := by decide
  rw [strtok_delimited (List.cons_ne_nil _ _) (forall_not_mem_singleton_iff.mpr plain)
    (List.mem_singleton_self _)]

def Decodes (started : StartedDevice) (pairs : List QueryPair) : Prop :=
  ∀ circumstances behind,
    (handleHttp circumstances started.device (requestLine pairs ++ behind)).made =
      pairs.map QueryPair.arguments

theorem decodes_iff (started : StartedDevice) (pairs : List QueryPair) :
    Decodes started pairs ↔ Decodable pairs := by
  have calls : ∀ circumstances behind,
      (handleHttp circumstances started.device (requestLine pairs ++ behind)).made =
        pairs.map QueryPair.arguments ↔ Decodable pairs := by
    intro circumstances behind
    rw [handleHttp_found (strstr_requestLine pairs behind), strtok_requestText]
    exact handleQuery_made_iff started.spiOpen pairs
  constructor
  · intro decodes
    exact (calls (fun _ => ⟨⟨fun _ => 0⟩, none⟩) []).mp (decodes _ [])
  · intro decodable circumstances behind
    exact (calls circumstances behind).mpr decodable

/-! ### Lines without a query -/

structure PlainLine where
  text : List UInt8
  noQuery : questionMark ∉ text

def CallsNothing (started : StartedDevice) (line : PlainLine) : Prop :=
  ∀ circumstances behind,
    (handleHttp circumstances started.device (line.text ++ behind)).made = []

theorem handleQuery_of_no_query {text : List UInt8} (noQuery : questionMark ∉ text) :
    handleQuery circumstances count device (strtok [questionMark] text).2 = ([], .ok device) := by
  have nothing : (strtok [questionMark] text).2 = [] := by
    cases text with
    | nil => rfl
    | cons c text =>
        rw [strtok_last (List.cons_ne_nil _ _) (forall_not_mem_singleton_iff.mpr noQuery)]
  rw [nothing]
  exact handleQuery_none rfl

/-- Where the line holds " HTTP" or a terminator the search does not leave it. -/
theorem found_within {line behind text : List UInt8} (ends : httpText <:+: line ∨ 0 ∈ line)
    (found : strstr 0 httpText (line ++ behind) = .found text) : text <+: line := by
  obtain ⟨plain, occurs⟩ := strstr_found found
  have begins : text <+: line ++ behind := (List.prefix_append _ _).trans occurs.here
  rcases ends with ⟨before, after, whole⟩ | terminated
  · have here : before ++ httpText <+: line ++ behind := by
      rw [← whole, List.append_assoc _ after]
      exact List.prefix_append _ _
    have notLater := occurs.first before here
    apply List.prefix_of_prefix_length_le begins (List.prefix_append _ _)
    rw [← whole, List.length_append, List.length_append]
    omega
  · obtain ⟨before, after, whole⟩ := List.append_of_mem terminated
    rw [whole, List.append_assoc, List.cons_append] at begins
    rw [whole]
    exact (prefix_of_prefix_terminated plain begins).trans (List.prefix_append _ _)

/-- What may stand behind the line: "a?a=b HTTP". -/
def staleQuery : List UInt8 := [97, questionMark, 97, equalsSign, 98] ++ httpText

theorem strstr_staleQuery {line : List UInt8} (absent : ¬ httpText <:+: line)
    (plain : 0 ∉ line) :
    strstr 0 httpText (line ++ staleQuery) =
      .found (line ++ [97] ++ questionMark :: [97, equalsSign, 98]) := by
  have stale : strstr 0 httpText staleQuery =
      .found [97, questionMark, 97, equalsSign, 98] := by decide
  rw [strstr_append plain]
  · rw [stale]
    exact congrArg Search.found (List.append_cons line 97 _)
  · intro suffix isSuffix _ here
    have plainText : 97 ∉ httpText := by decide
    have within : httpText <+: suffix := prefix_of_prefix_terminated plainText here
    exact absent (within.isInfix.trans isSuffix.isInfix)

theorem callsNothing_iff (started : StartedDevice) (line : PlainLine) :
    CallsNothing started line ↔ httpText <:+: line.text ∨ 0 ∈ line.text := by
  constructor
  · intro callsNothing
    by_contra ends
    rw [not_or] at ends
    have found := strstr_staleQuery ends.1 ends.2
    have nothing := callsNothing (fun _ => ⟨⟨fun _ => 0⟩, none⟩) staleQuery
    have plain : questionMark ∉ line.text ++ [97] := by
      rw [List.mem_append, not_or]
      exact ⟨line.noQuery, by decide⟩
    have query : strtok [questionMark]
        (line.text ++ [97] ++ questionMark :: [97, equalsSign, 98]) =
          (some (line.text ++ [97]), [97, equalsSign, 98]) :=
      strtok_delimited (List.append_ne_nil_of_right_ne_nil _ (List.cons_ne_nil _ _))
        (forall_not_mem_singleton_iff.mpr plain) (List.mem_singleton_self _) _
    have cuts : strtok [equalsSign] [97, equalsSign, 98] = (some [97], [98]) := by decide
    obtain ⟨later, made⟩ :=
      handleQuery_first (fun _ => ⟨⟨fun _ => 0⟩, none⟩) 0 started.device cuts
    rw [handleHttp_found found, query, made] at nothing
    cases nothing
  · intro ends circumstances behind
    unfold handleHttp
    cases search : strstr 0 httpText (line.text ++ behind) with
    | beyond => rfl
    | missing before => rfl
    | found text =>
        have noQuestion : questionMark ∉ text :=
          fun member => line.noQuery ((found_within ends search).subset member)
        simp only [handleQuery_of_no_query noQuestion]

/-- A submitted query is decoded where no value is empty and only its last pair may
restart the session; a line without one comes to no call where the search ends
within it. -/
theorem handleHttp_decodes_iff (started : StartedDevice) :
    (∀ pairs, Decodes started pairs ↔ Decodable pairs) ∧
      ∀ line, CallsNothing started line ↔ httpText <:+: line.text ∨ 0 ∈ line.text :=
  ⟨decodes_iff started, callsNothing_iff started⟩

theorem free_of_all {text : List UInt8} (all : text.all (fun c => !reserved.contains c) = true) :
    ∀ c ∈ text, c ∉ reserved := by
  intro c member isReserved
  have free := List.all_eq_true.mp all c member
  rw [List.contains_iff_mem.mpr isReserved] at free
  cases free

def blankTip : QueryPair := ⟨tipName, [], List.cons_ne_nil _ _, free_of_all rfl, free_of_all rfl⟩

/-- The network form with the address left blank: dhcp=0&tip=&gip=10.0.0.1. -/
def blankForm : List QueryPair :=
  [⟨dhcpName, [48], List.cons_ne_nil _ _, free_of_all rfl, free_of_all rfl⟩, blankTip,
    ⟨gipName, [49, 48, 46, 48, 46, 48, 46, 49], List.cons_ne_nil _ _, free_of_all rfl,
      free_of_all rfl⟩]

theorem blankForm_not_decodes :
    (requestLine blankForm).length < 128 ∧
      ∃ started : StartedDevice, ethernetBeginMac none poweredDevice = .ok started.device ∧
        ¬ Decodes started blankForm := by
  obtain ⟨started, begun⟩ := exists_started
  have blank : blankTip ∈ blankForm := List.mem_cons_of_mem _ List.mem_cons_self
  refine ⟨by decide, started, begun, ?_⟩
  rw [decodes_iff]
  intro decodable
  exact decodable.nonempty blankTip blank rfl

end MSniff.Concrete.Dashboard
