/-
The two scans of C texts, over any characters. strstr searches a memory from its
first cell on, up to the terminator; strtok cuts a token off a text and saves what
stands behind the delimiter that ended it.
-/

import Mathlib.Data.List.Basic

namespace MSniff.TextScan

variable {Character : Type*} [DecidableEq Character]

/-! ### Searching a memory -/

/-- Where a search ended: the characters before the text it looked for, those before
the terminator it met first, or nowhere in the memory. -/
inductive Search (Character : Type*)
  | found (before : List Character)
  | missing (before : List Character)
  | beyond
  deriving DecidableEq

def Search.prepend (skipped : List Character) : Search Character → Search Character
  | .found before => .found (skipped ++ before)
  | .missing before => .missing (skipped ++ before)
  | .beyond => .beyond

omit [DecidableEq Character] in
theorem Search.prepend_nil (search : Search Character) : search.prepend [] = search := by
  cases search <;> rfl

omit [DecidableEq Character] in
theorem Search.prepend_prepend (first second : List Character) (search : Search Character) :
    (search.prepend second).prepend first = search.prepend (first ++ second) := by
  cases search with
  | found before => exact congrArg found (List.append_assoc first second before).symm
  | missing before => exact congrArg missing (List.append_assoc first second before).symm
  | beyond => rfl

def strstr (terminator : Character) (needle : List Character) :
    List Character → Search Character
  | [] => .beyond
  | c :: rest =>
      if needle <+: c :: rest then .found []
      else if c = terminator then .missing []
      else (strstr terminator needle rest).prepend [c]

variable {terminator first : Character} {needle memory skipped rest : List Character}

theorem strstr_here (here : first :: needle <+: memory) :
    strstr terminator (first :: needle) memory = .found [] := by
  cases memory with
  | nil => cases List.prefix_nil.mp here
  | cons c rest => rw [strstr, if_pos here]

theorem strstr_cons {c : Character} (plain : c ≠ terminator) (notHere : ¬ needle <+: c :: rest) :
    strstr terminator needle (c :: rest) = (strstr terminator needle rest).prepend [c] := by
  rw [strstr, if_neg notHere, if_neg plain]

/-- A search passes over characters at none of which the text begins. -/
theorem strstr_append (plain : terminator ∉ skipped)
    (absent : ∀ suffix, suffix <:+ skipped → suffix ≠ [] → ¬ needle <+: suffix ++ rest) :
    strstr terminator needle (skipped ++ rest) =
      (strstr terminator needle rest).prepend skipped := by
  induction skipped with
  | nil => exact (Search.prepend_nil _).symm
  | cons c skipped ih =>
      rw [List.mem_cons, not_or] at plain
      have notHere : ¬ needle <+: c :: (skipped ++ rest) :=
        absent (c :: skipped) (List.suffix_refl _) (List.cons_ne_nil _ _)
      have later := ih plain.2 fun suffix isSuffix =>
        absent suffix (isSuffix.trans (List.suffix_cons c skipped))
      rw [List.cons_append, strstr_cons (Ne.symm plain.1) notHere, later]
      exact Search.prepend_prepend [c] skipped _

theorem strstr_append_of_first_not_mem (plain : terminator ∉ skipped) (other : first ∉ skipped) :
    strstr terminator (first :: needle) (skipped ++ rest) =
      (strstr terminator (first :: needle) rest).prepend skipped := by
  apply strstr_append plain
  intro suffix isSuffix nonempty here
  cases suffix with
  | nil => exact nonempty rfl
  | cons c suffix =>
      have same : first = c := (List.cons_prefix_cons.mp here).1
      exact other (same ▸ isSuffix.subset List.mem_cons_self)

/-- Where a found text stands, and that it stands nowhere before. -/
structure FirstOccurrence (needle before memory : List Character) : Prop where
  here : before ++ needle <+: memory
  first : ∀ shorter, shorter ++ needle <+: memory → before.length ≤ shorter.length

theorem strstr_found {before : List Character}
    (found : strstr terminator needle memory = .found before) :
    terminator ∉ before ∧ FirstOccurrence needle before memory := by
  induction memory generalizing before with
  | nil => cases found
  | cons c rest ih =>
      unfold strstr at found
      by_cases here : needle <+: c :: rest
      · rw [if_pos here] at found
        cases found
        exact ⟨List.not_mem_nil, here, fun _ _ => Nat.zero_le _⟩
      · rw [if_neg here] at found
        by_cases ends : c = terminator
        · rw [if_pos ends] at found
          cases found
        · rw [if_neg ends] at found
          cases later : strstr terminator needle rest with
          | missing _ => rw [later] at found; cases found
          | beyond => rw [later] at found; cases found
          | found tail =>
              rw [later] at found
              cases found
              obtain ⟨plain, occurs⟩ := ih later
              refine ⟨?_, ?_, ?_⟩
              · intro occurs
                rcases occurs with _ | ⟨_, member⟩
                · exact ends rfl
                · exact plain member
              · exact List.cons_prefix_cons.mpr ⟨rfl, occurs.here⟩
              · intro shorter earlier
                cases shorter with
                | nil => exact absurd earlier here
                | cons _ shorter =>
                    have tailEarlier := (List.cons_prefix_cons.mp earlier).2
                    exact Nat.succ_le_succ (occurs.first shorter tailEarlier)

theorem strstr_ne_beyond (ends : terminator ∈ memory) :
    strstr terminator needle memory ≠ .beyond := by
  induction memory with
  | nil => cases ends
  | cons c rest ih =>
      unfold strstr
      split_ifs with here isEnd
      · nofun
      · nofun
      · have later : terminator ∈ rest := by
          cases ends with
          | head => exact absurd rfl isEnd
          | tail _ member => exact member
        intro beyond
        cases search : strstr terminator needle rest with
        | found _ => rw [search] at beyond; cases beyond
        | missing _ => rw [search] at beyond; cases beyond
        | beyond => exact ih later search

omit [DecidableEq Character] in
/-- A text without the terminator stands before it. -/
theorem prefix_of_prefix_terminated {text : List Character} (plain : terminator ∉ text)
    (within : text <+: memory ++ terminator :: rest) : text <+: memory := by
  apply List.prefix_of_prefix_length_le within (List.prefix_append _ _)
  by_contra longer
  have whole : memory ++ [terminator] <+: memory ++ terminator :: rest :=
    (List.prefix_append_right_inj memory).mpr (List.cons_prefix_cons.mpr ⟨rfl, List.nil_prefix⟩)
  have contained : memory ++ [terminator] <+: text := by
    apply List.prefix_of_prefix_length_le whole within
    rw [List.length_append, List.length_singleton]
    omega
  exact plain (contained.subset (List.mem_append_right _ (List.mem_singleton_self _)))

/-- The first occurrence within a memory is the first in any memory it begins. -/
theorem FirstOccurrence.strstr_append {before : List Character}
    (occurs : FirstOccurrence needle before memory) (nonempty : needle ≠ [])
    (plain : terminator ∉ before) (behind : List Character) :
    strstr terminator needle (memory ++ behind) = .found before := by
  obtain ⟨rest, rfl⟩ := occurs.here
  rw [List.append_assoc, List.append_assoc, TextScan.strstr_append plain]
  · cases needle with
    | nil => exact absurd rfl nonempty
    | cons first needle =>
        rw [strstr_here (List.prefix_append _ _)]
        exact congrArg Search.found (List.append_nil before)
  · rintro suffix ⟨shorter, rfl⟩ suffixNonempty here
    have whole : shorter ++ needle <+: shorter ++ suffix ++ needle ++ rest ++ behind := by
      rw [List.append_assoc shorter, List.append_assoc shorter, List.append_assoc shorter]
      apply (List.prefix_append_right_inj shorter).mpr
      simpa using here
    have lengths : 0 < suffix.length := List.length_pos_iff.mpr suffixNonempty
    have earlier : shorter ++ needle <+: shorter ++ suffix ++ needle ++ rest := by
      apply List.prefix_of_prefix_length_le whole (List.prefix_append _ _)
      simp only [List.length_append]
      omega
    have notLater := occurs.first shorter earlier
    rw [List.length_append] at notLater
    omega

/-! ### Cutting tokens -/

omit [DecidableEq Character] in
theorem forall_mem_singleton_iff {delimiter : Character} {text : List Character} :
    (∀ c ∈ text, c ∈ [delimiter]) ↔ ∀ c ∈ text, c = delimiter := by
  simp only [List.mem_singleton]

omit [DecidableEq Character] in
theorem forall_not_mem_singleton_iff {delimiter : Character} {text : List Character} :
    (∀ c ∈ text, c ∉ [delimiter]) ↔ delimiter ∉ text := by
  constructor
  · intro plain member
    exact plain delimiter member (List.mem_singleton_self _)
  · intro plain c member delimits
    exact plain (List.mem_singleton.mp delimits ▸ member)

/-- A token up to its delimiter, and what stands behind that. -/
def cutToken (delimiters : List Character) : List Character → List Character × List Character
  | [] => ([], [])
  | c :: rest =>
      if c ∈ delimiters then ([], rest)
      else (c :: (cutToken delimiters rest).1, (cutToken delimiters rest).2)

/-- The next token of the saved text, if there is one, and the text saved then. -/
def strtok (delimiters : List Character) :
    List Character → Option (List Character) × List Character
  | [] => (none, [])
  | c :: rest =>
      if c ∈ delimiters then strtok delimiters rest
      else (some (c :: (cutToken delimiters rest).1), (cutToken delimiters rest).2)

variable {delimiters text token : List Character}

theorem cutToken_append (plain : ∀ c ∈ token, c ∉ delimiters) (rest : List Character) :
    cutToken delimiters (token ++ rest) =
      (token ++ (cutToken delimiters rest).1, (cutToken delimiters rest).2) := by
  induction token with
  | nil => rfl
  | cons c token ih =>
      rw [List.forall_mem_cons] at plain
      rw [List.cons_append, cutToken, if_neg plain.1, ih plain.2]
      rfl

theorem strtok_skip (skips : ∀ c ∈ skipped, c ∈ delimiters) (rest : List Character) :
    strtok delimiters (skipped ++ rest) = strtok delimiters rest := by
  induction skipped with
  | nil => rfl
  | cons c skipped ih =>
      rw [List.forall_mem_cons] at skips
      rw [List.cons_append, strtok, if_pos skips.1, ih skips.2]

theorem strtok_none (skips : ∀ c ∈ text, c ∈ delimiters) :
    strtok delimiters text = (none, []) := by
  rw [← List.append_nil text, strtok_skip skips, strtok]

theorem strtok_token (nonempty : token ≠ []) (plain : ∀ c ∈ token, c ∉ delimiters)
    (rest : List Character) :
    strtok delimiters (token ++ rest) =
      (some (token ++ (cutToken delimiters rest).1), (cutToken delimiters rest).2) := by
  cases token with
  | nil => exact absurd rfl nonempty
  | cons c token =>
      rw [List.forall_mem_cons] at plain
      rw [List.cons_append, strtok, if_neg plain.1, cutToken_append plain.2]
      rfl

theorem strtok_last (nonempty : token ≠ []) (plain : ∀ c ∈ token, c ∉ delimiters) :
    strtok delimiters token = (some token, []) := by
  have cut := strtok_token nonempty plain []
  rw [List.append_nil] at cut
  rw [cut, cutToken, List.append_nil]

theorem strtok_delimited {delimiter : Character} (nonempty : token ≠ [])
    (plain : ∀ c ∈ token, c ∉ delimiters) (delimits : delimiter ∈ delimiters)
    (rest : List Character) :
    strtok delimiters (token ++ delimiter :: rest) = (some token, rest) := by
  rw [strtok_token nonempty plain, cutToken, if_pos delimits, List.append_nil]

inductive Cut (delimiters : List Character) :
    List Character → List Character → List Character → Prop
  | last (skipped token : List Character) (skips : ∀ c ∈ skipped, c ∈ delimiters)
      (nonempty : token ≠ []) (plain : ∀ c ∈ token, c ∉ delimiters) :
      Cut delimiters (skipped ++ token) token []
  | delimited (skipped token : List Character) (delimiter : Character) (rest : List Character)
      (skips : ∀ c ∈ skipped, c ∈ delimiters) (nonempty : token ≠ [])
      (plain : ∀ c ∈ token, c ∉ delimiters) (delimits : delimiter ∈ delimiters) :
      Cut delimiters (skipped ++ (token ++ delimiter :: rest)) token rest

theorem Cut.strtok (cut : Cut delimiters text token rest) :
    strtok delimiters text = (some token, rest) := by
  cases cut with
  | last skipped _ skips nonempty plain => rw [strtok_skip skips, strtok_last nonempty plain]
  | delimited skipped _ delimiter _ skips nonempty plain delimits =>
      rw [strtok_skip skips, strtok_delimited nonempty plain delimits]

theorem cutToken_cases (delimiters text : List Character) :
    (∀ c ∈ (cutToken delimiters text).1, c ∉ delimiters) ∧
      (text = (cutToken delimiters text).1 ∧ (cutToken delimiters text).2 = [] ∨
        ∃ delimiter ∈ delimiters,
          text = (cutToken delimiters text).1 ++ delimiter :: (cutToken delimiters text).2) := by
  induction text with
  | nil => exact ⟨nofun, Or.inl ⟨rfl, rfl⟩⟩
  | cons c text ih =>
      obtain ⟨plain, ends⟩ := ih
      rw [cutToken]
      split_ifs with delimits
      · exact ⟨nofun, Or.inr ⟨c, delimits, rfl⟩⟩
      · constructor
        · exact List.forall_mem_cons.mpr ⟨delimits, plain⟩
        · rcases ends with ⟨whole, saved⟩ | ⟨delimiter, member, whole⟩
          · exact Or.inl ⟨congrArg (c :: ·) whole, saved⟩
          · exact Or.inr ⟨delimiter, member, congrArg (c :: ·) whole⟩

theorem strtok_cases (delimiters text : List Character) :
    (∀ c ∈ text, c ∈ delimiters) ∧ strtok delimiters text = (none, []) ∨
      ∃ token rest, Cut delimiters text token rest ∧
        strtok delimiters text = (some token, rest) := by
  induction text with
  | nil => exact Or.inl ⟨nofun, rfl⟩
  | cons c text ih =>
      by_cases delimits : c ∈ delimiters
      · have passes : strtok delimiters (c :: text) = strtok delimiters text := by
          rw [strtok, if_pos delimits]
        rw [passes]
        rcases ih with ⟨skips, none⟩ | ⟨token, rest, cut, some⟩
        · exact Or.inl ⟨List.forall_mem_cons.mpr ⟨delimits, skips⟩, none⟩
        · refine Or.inr ⟨token, rest, ?_, some⟩
          cases cut with
          | last skipped _ skips nonempty plain =>
              exact .last (c :: skipped) token (List.forall_mem_cons.mpr ⟨delimits, skips⟩)
                nonempty plain
          | delimited skipped _ delimiter _ skips nonempty plain member =>
              exact .delimited (c :: skipped) token delimiter rest
                (List.forall_mem_cons.mpr ⟨delimits, skips⟩) nonempty plain member
      · obtain ⟨plain, ends⟩ := cutToken_cases delimiters text
        have plainAll : ∀ d ∈ c :: (cutToken delimiters text).1, d ∉ delimiters :=
          List.forall_mem_cons.mpr ⟨delimits, plain⟩
        refine Or.inr ⟨c :: (cutToken delimiters text).1, (cutToken delimiters text).2, ?_, ?_⟩
        · rcases ends with ⟨whole, saved⟩ | ⟨delimiter, member, whole⟩
          · rw [saved]
            have cut := Cut.last [] _ nofun (List.cons_ne_nil _ _) plainAll
            rw [List.nil_append] at cut
            rwa [← whole] at cut ⊢
          · have cut := Cut.delimited [] _ delimiter (cutToken delimiters text).2 nofun
              (List.cons_ne_nil _ _) plainAll member
            rwa [List.nil_append, List.cons_append, ← whole] at cut
        · rw [strtok, if_neg delimits]

theorem strtok_rest (delimiters text : List Character) :
    (strtok delimiters text).2 =
      ((text.dropWhile (· ∈ delimiters)).dropWhile (· ∉ delimiters)).drop 1 := by
  have cut : ∀ text, (cutToken delimiters text).2 =
      (text.dropWhile (· ∉ delimiters)).drop 1 := by
    intro text
    induction text with
    | nil => rfl
    | cons c text ih =>
        rw [cutToken]
        split_ifs with delimits
        · rw [List.dropWhile_cons_of_neg (by simpa using delimits)]
          rfl
        · rw [List.dropWhile_cons_of_pos (by simpa using delimits)]
          exact ih
  induction text with
  | nil => rfl
  | cons c text ih =>
      rw [strtok]
      split_ifs with delimits
      · rw [List.dropWhile_cons_of_pos (by simpa using delimits)]
        exact ih
      · rw [List.dropWhile_cons_of_neg (by simpa using delimits),
          List.dropWhile_cons_of_pos (by simpa using delimits)]
        exact cut text

theorem strtok_nonempty (delimiters text : List Character) :
    (strtok delimiters text).1 ≠ some [] := by
  rcases strtok_cases delimiters text with ⟨_, none⟩ | ⟨token, rest, cut, some⟩
  · rw [none]
    nofun
  · rw [some]
    intro same
    cases same
    cases cut with
    | last _ _ _ nonempty => exact nonempty rfl
    | delimited _ _ _ _ _ nonempty => exact nonempty rfl

omit [DecidableEq Character] in
theorem Cut.length_lt (cut : Cut delimiters text token rest) : rest.length < text.length := by
  cases cut with
  | last skipped _ _ nonempty =>
      have positive := List.length_pos_iff.mpr nonempty
      simp only [List.length_append, List.length_nil]
      omega
  | delimited skipped _ delimiter =>
      simp only [List.length_append, List.length_cons]
      omega

theorem strtok_length_le (delimiters text : List Character) :
    (strtok delimiters text).2.length ≤ text.length := by
  rcases strtok_cases delimiters text with ⟨_, none⟩ | ⟨token, rest, cut, some⟩
  · rw [none]
    exact Nat.zero_le _
  · rw [some]
    exact Nat.le_of_lt cut.length_lt

theorem cut_of_strtok (cuts : strtok delimiters text = (some token, rest)) :
    Cut delimiters text token rest := by
  rcases strtok_cases delimiters text with ⟨_, none⟩ | ⟨_, _, cut, some⟩
  · rw [none] at cuts
    cases cuts
  · rw [some] at cuts
    cases cuts
    exact cut

end MSniff.TextScan
