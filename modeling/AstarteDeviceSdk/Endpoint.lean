import Mathlib

/-! Modelled from the spec: the endpoint parser of `astarte-interfaces` (`mapping::endpoint`,
not under src/). An endpoint is `/` followed by `/`-separated levels; a level is a literal over
`[A-Za-z0-9_-]` not starting with `-`, or a parameter `%{ident}`. Both round trips between the
parser and `to_string` hold. -/

namespace AstarteDeviceSdk

inductive EndpointError
  | empty
  | missingSlash
  | emptyLevel
  | emptyParameter
  | malformedParameter
  | reservedCharacter (c : Char)
  deriving DecidableEq, Repr

inductive Level
  | literal (value : String)
  | parameter (name : String)
  deriving DecidableEq, Repr

def isLiteralChar (c : Char) : Bool := c.isAlphanum || c == '_' || c == '-'

def isIdentChar (c : Char) : Bool := c.isAlphanum || c == '_'

def Level.Valid : Level → Prop
  | .literal value => value.data ≠ [] ∧ (∀ c ∈ value.data, isLiteralChar c) ∧ value.data.head? ≠ some '-'
  | .parameter name => name.data ≠ [] ∧ ∀ c ∈ name.data, isIdentChar c

def Level.chars : Level → List Char
  | .literal value => value.data
  | .parameter name => '%' :: '{' :: (name.data ++ ['}'])

namespace Endpoint

def parseLiteral (chars : List Char) : Except EndpointError Level :=
  match chars.find? fun c => !isLiteralChar c with
  | some c => .error (.reservedCharacter c)
  | none => if chars.head? = some '-' then .error (.reservedCharacter '-') else .ok (.literal ⟨chars⟩)

def parseParameter : List Char → Except EndpointError Level
  | '{' :: rest =>
      if rest.getLast? = some '}' then
        if rest.dropLast = [] then .error .emptyParameter
        else
          match rest.dropLast.find? fun c => !isIdentChar c with
          | some c => .error (.reservedCharacter c)
          | none => .ok (.parameter ⟨rest.dropLast⟩)
      else .error .malformedParameter
  | _ => .error .malformedParameter

def parseLevel : List Char → Except EndpointError Level
  | [] => .error .emptyLevel
  | '%' :: rest => parseParameter rest
  | c :: rest => parseLiteral (c :: rest)

def parseLevels : List (List Char) → Except EndpointError (List Level)
  | [] => .ok []
  | chars :: rest =>
      match parseLevel chars, parseLevels rest with
      | .ok level, .ok levels => .ok (level :: levels)
      | .error e, _ => .error e
      | .ok _, .error e => .error e

theorem parseLiteral_ok {chars : List Char} {level : Level} (parsed : parseLiteral chars = .ok level) :
    level = .literal ⟨chars⟩ ∧ (∀ c ∈ chars, isLiteralChar c) ∧ chars.head? ≠ some '-' := by
  unfold parseLiteral at parsed
  split at parsed
  · cases parsed
  · rename_i allValid
    split at parsed
    · cases parsed
    · cases parsed
      simp only [List.find?_eq_none, Bool.not_eq_true', Bool.not_eq_false] at allValid
      exact ⟨rfl, allValid, ‹_›⟩

theorem parseParameter_ok {rest : List Char} {level : Level} (parsed : parseParameter rest = .ok level) :
    ∃ name, rest = '{' :: (name ++ ['}']) ∧ level = .parameter ⟨name⟩ ∧ name ≠ [] ∧
      ∀ c ∈ name, isIdentChar c := by
  unfold parseParameter at parsed
  split at parsed
  · rename_i inner
    split at parsed
    · rename_i closed
      split at parsed
      · cases parsed
      · split at parsed
        · cases parsed
        · rename_i nonempty _ allValid
          cases parsed
          simp only [List.find?_eq_none, Bool.not_eq_true', Bool.not_eq_false] at allValid
          exact ⟨inner.dropLast, by rw [List.dropLast_append_getLast? '}' closed], rfl, nonempty,
            allValid⟩
    · cases parsed
  · cases parsed

theorem parseLevel_ok {chars : List Char} {level : Level} (parsed : parseLevel chars = .ok level) :
    level.chars = chars ∧ level.Valid := by
  unfold parseLevel at parsed
  split at parsed
  · cases parsed
  · obtain ⟨name, rfl, rfl, nonempty, valid⟩ := parseParameter_ok parsed
    exact ⟨rfl, nonempty, valid⟩
  · obtain ⟨rfl, valid, notDash⟩ := parseLiteral_ok parsed
    exact ⟨rfl, List.cons_ne_nil _ _, valid, notDash⟩

theorem parseLevels_ok {parts : List (List Char)} {levels : List Level}
    (parsed : parseLevels parts = .ok levels) :
    levels.map Level.chars = parts ∧ ∀ level ∈ levels, level.Valid := by
  induction parts generalizing levels with
  | nil =>
      cases parsed
      simp
  | cons chars rest ih =>
      unfold parseLevels at parsed
      split at parsed
      · rename_i first others
        cases parsed
        obtain ⟨same, valid⟩ := parseLevel_ok first
        obtain ⟨sameRest, validRest⟩ := ih others
        exact ⟨by simp [same, sameRest], by simpa [valid] using validRest⟩
      all_goals cases parsed

end Endpoint

structure Endpoint where
  levels : List Level
  nonempty : levels ≠ []
  valid : ∀ level ∈ levels, level.Valid
  deriving DecidableEq, Repr

theorem Endpoint.ext {a b : Endpoint} (same : a.levels = b.levels) : a = b := by
  cases a
  cases b
  cases same
  rfl

theorem Endpoint.parseLevels_splitOn_ne_nil {path : List Char} {levels : List Level}
    (parsed : parseLevels (path.splitOn '/') = .ok levels) : levels ≠ [] := by
  intro empty
  have same := (parseLevels_ok parsed).1
  rw [empty] at same
  exact List.splitOnP_ne_nil _ path same.symm

/-- `Endpoint::try_from(&str)`. -/
def Endpoint.tryFrom (endpoint : String) : Except EndpointError Endpoint :=
  match endpoint.data with
  | [] => .error .empty
  | '/' :: path =>
      match parsed : parseLevels (path.splitOn '/') with
      | .ok levels => .ok ⟨levels, parseLevels_splitOn_ne_nil parsed, (parseLevels_ok parsed).2⟩
      | .error e => .error e
  | _ :: _ => .error .missingSlash

/-- `Display for Endpoint`. -/
def Endpoint.toString (endpoint : Endpoint) : String :=
  ⟨'/' :: ['/'].intercalate (endpoint.levels.map Level.chars)⟩

def Endpoint.len (endpoint : Endpoint) : Nat := endpoint.levels.length

theorem Level.chars_ne_slash {level : Level} (valid : level.Valid) : '/' ∉ level.chars := by
  cases level with
  | literal value =>
      intro member
      simpa [isLiteralChar] using valid.2.1 _ member
  | parameter name =>
      intro member
      simp only [Level.chars, List.mem_cons, List.mem_append, List.mem_singleton] at member
      rcases member with slash | slash | member | slash
      all_goals first
        | exact absurd slash (by decide)
        | simpa [isIdentChar] using valid.2 _ member

theorem Endpoint.parseLevel_chars {level : Level} (valid : level.Valid) : parseLevel level.chars = .ok level := by
  cases level with
  | literal value =>
      obtain ⟨nonempty, allValid, notDash⟩ := valid
      obtain ⟨chars⟩ := value
      obtain _ | ⟨c, rest⟩ := chars
      · exact absurd rfl nonempty
      have notPercent : c ≠ '%' := by
        rintro rfl
        simpa [isLiteralChar] using allValid '%' (List.mem_cons_self _ _)
      have literal := parseLevel.eq_3 c rest notPercent
      have none : (c :: rest).find? (fun c => !isLiteralChar c) = none := by
        simpa using allValid
      simp only [Level.chars, literal, parseLiteral, none]
      simp_all
  | parameter name =>
      obtain ⟨nonempty, allValid⟩ := valid
      have none : name.data.find? (fun c => !isIdentChar c) = none := by
        simpa using allValid
      simp [Level.chars, parseLevel, parseParameter, nonempty, none]

theorem Endpoint.parseLevels_chars {levels : List Level} (valid : ∀ level ∈ levels, level.Valid) :
    parseLevels (levels.map Level.chars) = .ok levels := by
  induction levels with
  | nil => rfl
  | cons level rest ih =>
      simp only [List.map_cons, parseLevels, parseLevel_chars (valid level (List.mem_cons_self _ _)),
        ih fun other member => valid other (List.mem_cons_of_mem _ member)]

theorem Endpoint.tryFrom_toString (endpoint : Endpoint) :
    Endpoint.tryFrom endpoint.toString = .ok endpoint := by
  have noSlash : ∀ chars ∈ endpoint.levels.map Level.chars, '/' ∉ chars := by
    intro chars member
    obtain ⟨level, present, rfl⟩ := List.mem_map.mp member
    exact Level.chars_ne_slash (endpoint.valid level present)
  have split := List.splitOn_intercalate _ '/' noSlash (by simpa using endpoint.nonempty)
  unfold Endpoint.tryFrom Endpoint.toString
  split
  · rename_i empty
    cases empty
  · rename_i path same
    cases same
    split
    · rename_i levels parsed
      rw [split, parseLevels_chars endpoint.valid] at parsed
      cases parsed
      rfl
    · rename_i e parsed
      rw [split, parseLevels_chars endpoint.valid] at parsed
      cases parsed
  · rename_i c path notSlash same
    cases same
    exact absurd rfl notSlash

theorem Endpoint.toString_tryFrom {text : String} {endpoint : Endpoint}
    (parsed : Endpoint.tryFrom text = .ok endpoint) : endpoint.toString = text := by
  unfold Endpoint.tryFrom at parsed
  split at parsed
  · cases parsed
  · rename_i path same
    split at parsed
    · rename_i levels levelsParsed
      cases parsed
      obtain ⟨chars⟩ := text
      simp only [Endpoint.toString, (parseLevels_ok levelsParsed).1, List.intercalate_splitOn]
      exact congrArg String.mk same.symm
    · cases parsed
  · cases parsed

end AstarteDeviceSdk
