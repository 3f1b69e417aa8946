import PatternInspector.Proofs.Text.Basic
import PatternInspector.Syntax.Parser

/-!
What a parser accepts. `Accepts` says that before a given text the parser passes over another text
and gives nodes that fit a description; `Rejects` says that it fails. Each combinator has its rules,
so the proof for a rule of a grammar follows the shape of the rule. Blanks need no rules of their own:
almost every parser passes over them before it looks at the text, and such a parser is loose.
-/
namespace PatternInspector.Syntax

open PatternInspector.Text (Avoids)

section Inputs

namespace Input

@[simp] theorem advance_zero (input : Input) : input.advance 0 = input := rfl

@[simp] theorem advance_style (count : Nat) (input : Input) :
    (input.advance count).style = input.style := by
  induction count generalizing input with
  | zero => rfl
  | succ count ih =>
      rw [advance]
      split
      · rfl
      · rw [ih]

@[simp] theorem advance_rest (count : Nat) (input : Input) :
    (input.advance count).rest = input.rest.drop count := by
  induction count generalizing input with
  | zero => rfl
  | succ count ih =>
      rw [advance]
      split
      next ended => rw [ended, List.drop_nil]
      next c rest start => rw [ih, start, List.drop_succ_cons]

theorem advance_advance (first second : Nat) (input : Input) :
    (input.advance first).advance second = input.advance (first + second) := by
  induction first generalizing input with
  | zero => rw [advance_zero, Nat.zero_add]
  | succ first ih =>
      rw [Nat.succ_add, advance, advance]
      split
      next ended =>
        cases second with
        | zero => rfl
        | succ second => simp only [advance, ended]
      next => exact ih _

theorem advance_offset {count : Nat} {input : Input} (inside : count ≤ input.rest.length) :
    (input.advance count).offset = input.offset + count := by
  induction count generalizing input with
  | zero => rfl
  | succ count ih =>
      rw [advance]
      split
      next ended => simp [ended] at inside
      next c rest start =>
        rw [start, List.length_cons] at inside
        rw [ih (Nat.le_of_succ_le_succ inside)]
        exact Nat.add_right_comm _ _ _

theorem text_to_advance {count : Nat} {input : Input} (inside : count ≤ input.rest.length) :
    input.textTo (input.advance count) = input.rest.take count := by
  rw [textTo, advance_offset inside, Nat.add_sub_cancel_left]

theorem advance_keeps_mode (count : Nat) (input : Input) :
    (input.advance count).mode = input.mode := by
  induction count generalizing input with
  | zero => rfl
  | succ count ih =>
      rw [advance]
      split
      · rfl
      · rw [ih]

theorem advance_mode (count : Nat) (input : Input) (mode : Mode) :
    advance count { input with mode } = { advance count input with mode } := by
  induction count generalizing input with
  | zero => rfl
  | succ count ih =>
      cases start : input.rest with
      | nil => simp only [advance, start]
      | cons c rest =>
          simp only [advance, start]
          exact ih { input with
            rest, offset := input.offset + 1, point := pointAfter input.point c }

end Input

end Inputs

section Trivia

def Style.startsTrivia (style : Style) (c : Char) : Bool := style.isBlank c || c == '/'

theorem skip_trivia_token {input : Input} (token : Avoids input.style.startsTrivia input.rest) :
    skipTrivia input = ([], input) := by
  unfold skipTrivia
  cases start : input.rest with
  | nil => rfl
  | cons c rest =>
      rw [start] at token
      have ⟨dark, noSlash⟩ : input.style.isBlank c = false ∧ ¬ c = '/' := by
        simpa [Style.startsTrivia] using token c rfl
      have noComment : commentLength? input.style (c :: rest) = none := by
        unfold commentLength?
        split <;> simp_all
      simp only [List.length_cons, skipTriviaFrom, start, dark, noComment, Bool.false_eq_true,
        if_false]

theorem skip_trivia_blank {input : Input} {c : Char} {rest : Text} (start : input.rest = c :: rest)
    (blank : input.style.isBlank c = true) : skipTrivia input = skipTrivia (input.advance 1) := by
  have left : (input.advance 1).rest.length = rest.length := by simp [start]
  rw [skipTrivia, skipTrivia, left, start, List.length_cons, skipTriviaFrom, start]
  simp only [blank, if_true]

end Trivia

namespace Parser

variable {style : Style} {parser other : Parser} {read more rest text : Text}
  {fits fitsToo : List Node → Prop}

section Judgements

/-- Before `rest`, the parser passes over `read` and gives nodes that fit. -/
def Accepts (style : Style) (parser : Parser) (read rest : Text) (fits : List Node → Prop) : Prop :=
  ∀ input : Input, input.style = style → input.rest = read ++ rest →
    ∃ nodes, parser input = some (nodes, input.advance read.length) ∧ fits nodes

def Rejects (style : Style) (parser : Parser) (text : Text) : Prop :=
  ∀ input : Input, input.style = style → input.rest = text → parser input = none

/-- The parser passes over blanks before it looks at the text. -/
def Loose (parser : Parser) : Prop :=
  ∀ (input : Input) (c : Char) (rest : Text), input.rest = c :: rest →
    input.style.isBlank c = true → parser input = parser (input.advance 1)

def Single (shape : Node → Prop) (nodes : List Node) : Prop := ∃ node, nodes = [node] ∧ shape node

theorem accepts_imp (accepts : Accepts style parser read rest fits)
    (weaker : ∀ nodes, fits nodes → fitsToo nodes) : Accepts style parser read rest fitsToo := by
  intro input styled start
  obtain ⟨nodes, result, fit⟩ := accepts input styled start
  exact ⟨nodes, result, weaker nodes fit⟩

theorem accepts_shape {shape looser : Node → Prop}
    (accepts : Accepts style parser read rest (Single shape))
    (weaker : ∀ node, shape node → looser node) :
    Accepts style parser read rest (Single looser) := by
  refine accepts_imp accepts fun nodes single => ?_
  obtain ⟨node, same, shaped⟩ := single
  exact ⟨node, same, weaker node shaped⟩

theorem accepts_blank {c : Char} (loose : Loose parser) (blank : style.isBlank c = true)
    (accepts : Accepts style parser read rest fits) : Accepts style parser (c :: read) rest fits := by
  intro input styled start
  obtain ⟨nodes, result, fit⟩ := accepts (input.advance 1) (by simpa using styled) (by simp [start])
  refine ⟨nodes, ?_, fit⟩
  rw [loose input c _ start (styled ▸ blank), result, Input.advance_advance, Nat.add_comm]
  rfl

theorem rejects_blank {c : Char} (loose : Loose parser) (blank : style.isBlank c = true)
    (rejects : Rejects style parser text) : Rejects style parser (c :: text) := by
  intro input styled start
  rw [loose input c _ start (styled ▸ blank)]
  exact rejects (input.advance 1) (by simpa using styled) (by simp [start])

theorem rejects_gap (loose : Loose parser)
    (rejects : Rejects style parser (text.dropWhile style.isBlank)) : Rejects style parser text := by
  induction text with
  | nil => exact rejects
  | cons c text ih =>
      by_cases blank : style.isBlank c = true
      · rw [List.dropWhile_cons_of_pos blank] at rejects
        exact rejects_blank loose blank (ih rejects)
      · rwa [List.dropWhile_cons_of_neg blank] at rejects

end Judgements

section Composition

theorem rest_behind {input : Input} (start : input.rest = read ++ rest) :
    (input.advance read.length).rest = rest := by
  rw [Input.advance_rest, start, List.drop_left]

theorem accepts_both (first : Accepts style parser read (more ++ rest) fits)
    (second : Accepts style other more rest fitsToo) :
    Accepts style (both parser other) (read ++ more) rest
      fun nodes => ∃ front back, nodes = front ++ back ∧ fits front ∧ fitsToo back := by
  intro input styled start
  rw [List.append_assoc] at start
  obtain ⟨front, one, fitFront⟩ := first input styled start
  obtain ⟨back, two, fitBack⟩ := second (input.advance read.length) (by simpa using styled)
    (rest_behind start)
  refine ⟨front ++ back, ?_, front, back, rfl, fitFront, fitBack⟩
  simp only [both, one, two, Input.advance_advance, List.length_append]

theorem rejects_both (rejects : Rejects style parser text) :
    Rejects style (both parser other) text := by
  intro input styled start
  simp only [both, rejects input styled start]

theorem rejects_behind (first : Accepts style parser read rest fits)
    (second : Rejects style other rest) : Rejects style (both parser other) (read ++ rest) := by
  intro input styled start
  obtain ⟨nodes, result, -⟩ := first input styled start
  have failed := second (input.advance read.length) (by simpa using styled) (rest_behind start)
  simp only [both, result, failed]

/-- A condition that something is absent lets what follows decide. -/
theorem rejects_absent {third : Parser} (rejects : Rejects style other text) :
    Rejects style (both (both (absent parser) other) third) text := by
  intro input styled start
  have failed := rejects input styled start
  simp only [both, absent]
  cases parser input <;> simp [failed]

theorem accepts_absent (rejects : Rejects style parser rest) :
    Accepts style (absent parser) [] rest (· = []) := by
  intro input styled start
  exact ⟨[], by simp only [absent, rejects input styled start]; rfl, rfl⟩

theorem loose_both (loose : Loose parser) : Loose (both parser other) := by
  intro input c rest start blank
  simp only [both, loose input c rest start blank]

variable {others : List Parser}

theorem accepts_choice (accepts : Accepts style parser read rest fits) :
    Accepts style (choice (parser :: others)) read rest fits := by
  intro input styled start
  obtain ⟨nodes, result, fit⟩ := accepts input styled start
  exact ⟨nodes, by simp only [choice, result], fit⟩

theorem accepts_later (rejects : Rejects style parser (read ++ rest))
    (accepts : Accepts style (choice others) read rest fits) :
    Accepts style (choice (parser :: others)) read rest fits := by
  intro input styled start
  obtain ⟨nodes, result, fit⟩ := accepts input styled start
  exact ⟨nodes, by simp only [choice, rejects input styled start, result], fit⟩

theorem rejects_choice (each : ∀ parser ∈ others, Rejects style parser text) :
    Rejects style (choice others) text := by
  intro input styled start
  induction others with
  | nil => rfl
  | cons parser others ih =>
      simp only [choice, each parser List.mem_cons_self input styled start]
      exact ih fun other member => each other (List.mem_cons_of_mem _ member)

theorem loose_choice (each : ∀ parser ∈ others, Loose parser) : Loose (choice others) := by
  intro input c rest start blank
  induction others with
  | nil => rfl
  | cons parser others ih =>
      have later := ih fun other member => each other (List.mem_cons_of_mem _ member)
      simp only [choice, each parser List.mem_cons_self input c rest start blank, later]

theorem accepts_done : Accepts style done [] rest (· = []) :=
  fun _ _ _ => ⟨[], rfl, rfl⟩

theorem accepts_under {mode : Mode → Mode} (accepts : Accepts style parser read rest fits) :
    Accepts style (under mode parser) read rest fits := by
  intro input styled start
  obtain ⟨nodes, result, fit⟩ := accepts { input with mode := mode input.mode } styled start
  refine ⟨nodes, ?_, fit⟩
  rw [under, result, Input.advance_mode, Option.map_some, ← Input.advance_keeps_mode read.length]

theorem rejects_under {mode : Mode → Mode} (rejects : Rejects style parser text) :
    Rejects style (under mode parser) text := by
  intro input styled start
  rw [under, rejects { input with mode := mode input.mode } styled start]
  rfl

theorem accepts_field (name : String) (accepts : Accepts style parser read rest fits) :
    Accepts style (field name parser) read rest
      fun nodes => ∃ inner, nodes = inner.map (withField style name) ∧ fits inner := by
  intro input styled start
  obtain ⟨nodes, result, fit⟩ := accepts input styled start
  exact ⟨_, by rw [field, result]; rfl, nodes, by rw [styled], fit⟩

theorem rejects_field {name : String} (rejects : Rejects style parser text) :
    Rejects style (field name parser) text := by
  intro input styled start
  rw [field, rejects input styled start]
  rfl

end Composition

section Repetition

/-- Before `rest`, the parser passes over `read` in one or more goes or in none, and fails then. The
limit is no obstacle if it is not less than what there is to read. -/
def Repeats (style : Style) (parser : Parser) (read rest : Text) (fits : List Node → Prop) : Prop :=
  ∀ (limit : Nat) (input : Input), input.style = style → input.rest = read ++ rest →
    input.rest.length ≤ limit →
      ∃ nodes, manyFrom parser limit input = some (nodes, input.advance read.length) ∧ fits nodes

theorem repeats_stop (stops : Rejects style parser rest) : Repeats style parser [] rest (· = []) := by
  intro limit input styled start room
  refine ⟨[], ?_, rfl⟩
  cases limit with
  | zero => rfl
  | succ limit =>
      simp only [manyFrom, stops input styled start]
      rfl

theorem repeats_next (nonempty : read ≠ []) (first : Accepts style parser read (more ++ rest) fits)
    (later : Repeats style parser more rest fitsToo) :
    Repeats style parser (read ++ more) rest
      fun nodes => ∃ front back, nodes = front ++ back ∧ fits front ∧ fitsToo back := by
  intro limit input styled start room
  rw [List.append_assoc] at start
  have positive : 0 < read.length := List.length_pos_iff.mpr nonempty
  have inside : read.length ≤ input.rest.length := by
    rw [start, List.length_append]
    exact Nat.le_add_right _ _
  obtain ⟨limit, rfl⟩ : ∃ less, limit = less + 1 := ⟨limit - 1, by omega⟩
  obtain ⟨front, one, fitFront⟩ := first input styled start
  obtain ⟨back, two, fitBack⟩ := later limit (input.advance read.length) (by simpa using styled)
    (rest_behind start) (by rw [Input.advance_rest, List.length_drop]; omega)
  have ahead : ¬ (input.advance read.length).offset ≤ input.offset := by
    rw [Input.advance_offset inside]
    omega
  refine ⟨front ++ back, ?_, front, back, rfl, fitFront, fitBack⟩
  simp only [manyFrom, one, ahead, if_false, two, Input.advance_advance, List.length_append]

theorem repeats_imp (repeats : Repeats style parser read rest fits)
    (weaker : ∀ nodes, fits nodes → fitsToo nodes) : Repeats style parser read rest fitsToo := by
  intro limit input styled start room
  obtain ⟨nodes, result, fit⟩ := repeats limit input styled start room
  exact ⟨nodes, result, weaker nodes fit⟩

theorem accepts_many (repeats : Repeats style parser read rest fits) :
    Accepts style (many parser) read rest fits :=
  fun input styled start => repeats input.rest.length input styled start (Nat.le_refl _)

end Repetition

section Nodes

variable {kind : String} {isNamed : Bool} {length? : Text → Option Nat}

structure Covers (kind : String) (isNamed : Bool) (text : Text) (node : Node) : Prop where
  kind : node.kind = kind
  named : node.label.isNamed = isNamed
  text : node.label.text = text

theorem covers_made {input : Input} (start : input.rest = read ++ rest) (children : List Node) :
    Covers kind isNamed read
      (mkNode kind isNamed input (input.advance read.length) children) where
  kind := rfl
  named := rfl
  text := by
    have inside : read.length ≤ input.rest.length := by simp [start]
    have whole := Input.text_to_advance inside
    rwa [start, List.take_left] at whole

theorem accepts_leaf (token : Avoids style.startsTrivia (read ++ rest))
    (measured : length? (read ++ rest) = some read.length) :
    Accepts style (leaf kind isNamed length?) read rest
      (Single fun node => Covers kind isNamed read node ∧ node.children = []) := by
  intro input styled start
  have quiet : skipTrivia input = ([], input) := skip_trivia_token (by rwa [styled, start])
  refine ⟨_, ?_, _, rfl, covers_made start [], rfl⟩
  simp only [leaf, quiet, start, measured]
  rfl

theorem rejects_leaf (token : Avoids style.startsTrivia text) (unmeasured : length? text = none) :
    Rejects style (leaf kind isNamed length?) text := by
  intro input styled start
  have quiet : skipTrivia input = ([], input) := skip_trivia_token (by rwa [styled, start])
  simp only [leaf, quiet, start, unmeasured]

theorem loose_leaf : Loose (leaf kind isNamed length?) := by
  intro input c rest start blank
  simp only [leaf, skip_trivia_blank start blank]

theorem accepts_node (token : Avoids style.startsTrivia (read ++ rest))
    (accepts : Accepts style parser read rest fits) :
    Accepts style (node kind parser) read rest
      (Single fun node => Covers kind true read node ∧ fits node.children) := by
  intro input styled start
  have quiet : skipTrivia input = ([], input) := skip_trivia_token (by rwa [styled, start])
  obtain ⟨children, result, fit⟩ := accepts input styled start
  refine ⟨_, ?_, _, rfl, covers_made start children, fit⟩
  simp only [node, quiet, result]
  rfl

-- What passes over trivia and then starts with a parser is rejected with it before a token.
theorem rejects_start {whole : Parser}
    (starts : ∀ input, skipTrivia input = ([], input) → parser input = none → whole input = none)
    (token : Avoids style.startsTrivia text) (rejects : Rejects style parser text) :
    Rejects style whole text := by
  intro input styled start
  have quiet : skipTrivia input = ([], input) := skip_trivia_token (by rwa [styled, start])
  exact starts input quiet (rejects input styled start)

theorem rejects_node (token : Avoids style.startsTrivia text)
    (rejects : Rejects style parser text) : Rejects style (node kind parser) text :=
  rejects_start (fun _ quiet failed => by simp only [node, quiet, failed]) token rejects

theorem loose_node : Loose (node kind parser) := by
  intro input c rest start blank
  simp only [node, skip_trivia_blank start blank]

end Nodes

section Growth

variable {suffixes before : List Suffix} {suffix : Suffix} {shape : Node → Prop} {steps : Nat}

/-- Before `rest`, the node that the parser gives is extended a number of times, and it then covers
`read` and has that shape. -/
def GrowsTo (style : Style) (suffixes : List Suffix) (parser : Parser) (steps : Nat)
    (read rest : Text) (shape : Node → Prop) : Prop :=
  ∀ start : Input, start.style = style → start.rest = read ++ rest →
    ∃ first length node, parser start = some ([first], start.advance length) ∧ shape node ∧
      ∀ limit, growFrom suffixes start (limit + steps) [first] (start.advance length) =
        growFrom suffixes start limit [node] (start.advance read.length)

def Suffix.inRole (style : Style) (suffix : Suffix) (node : Node) : Node :=
  match suffix.role with
  | none => node
  | some role => withField style role node

theorem grows_start (accepts : Accepts style parser read rest (Single shape)) :
    GrowsTo style suffixes parser 0 read rest shape := by
  intro start styled begins
  obtain ⟨_, result, node, rfl, shaped⟩ := accepts start styled begins
  exact ⟨node, read.length, node, result, shaped, fun _ => rfl⟩

theorem grows_imp {weaker : Node → Prop} (grown : GrowsTo style suffixes parser steps read rest shape)
    (implies : ∀ node, shape node → weaker node) :
    GrowsTo style suffixes parser steps read rest weaker := by
  intro start styled begins
  obtain ⟨first, length, node, result, shaped, reached⟩ := grown start styled begins
  exact ⟨first, length, node, result, implies node shaped, reached⟩

theorem first_suffix_behind {added : List Node} {input next : Input} (nodes : List Node)
    (later : List Suffix) (styled : input.style = style) (begins : input.rest = text)
    (rejected : ∀ other ∈ before, Rejects style other.parser text) (free : suffix.only = none)
    (result : suffix.parser input = some (added, next)) :
    firstSuffix (before ++ suffix :: later) nodes input = some (suffix, added, next) := by
  induction before with
  | nil => simp [firstSuffix, Suffix.extends?, free, result]
  | cons other before ih =>
      have failed := rejected other List.mem_cons_self input styled begins
      have continued := ih fun third member => rejected third (List.mem_cons_of_mem _ member)
      simp only [firstSuffix, List.cons_append, List.findSome?_cons, failed, Option.map_none,
        ite_self]
      exact continued

theorem grows_step (before : List Suffix) (suffix : Suffix) (later : List Suffix)
    (grown : GrowsTo style (before ++ suffix :: later) parser steps read (more ++ rest) shape)
    (rejected : ∀ other ∈ before, Rejects style other.parser (more ++ rest))
    (free : suffix.only = none) (nonempty : more ≠ [])
    (accepts : Accepts style suffix.parser more rest fits) :
    GrowsTo style (before ++ suffix :: later) parser (steps + 1) (read ++ more) rest
      fun node => Covers suffix.kind true (read ++ more) node ∧
        ∃ inner added, node.children = suffix.inRole style inner :: added ∧ shape inner ∧
          fits added := by
  intro start styled begins
  have split : start.rest = read ++ (more ++ rest) := by rw [begins, List.append_assoc]
  obtain ⟨first, length, inner, result, shaped, reached⟩ := grown start styled split
  have behind := rest_behind split
  have sameStyle : (start.advance read.length).style = style := by simpa using styled
  obtain ⟨added, extended, fit⟩ := accepts _ sameStyle behind
  have taken := first_suffix_behind [inner] later sameStyle behind rejected free extended
  have ahead : ¬ ((start.advance read.length).advance more.length).offset ≤
      (start.advance read.length).offset := by
    have positive : 0 < more.length := List.length_pos_iff.mpr nonempty
    have inside : more.length ≤ (start.advance read.length).rest.length := by
      rw [behind, List.length_append]
      exact Nat.le_add_right _ _
    rw [Input.advance_offset inside]
    omega
  refine ⟨first, length, _, result, ⟨covers_made begins _, inner, added, rfl, shaped, fit⟩, ?_⟩
  intro limit
  have counted : limit + (steps + 1) = limit + 1 + steps := by omega
  rw [counted, reached, growFrom, taken]
  simp only [ahead, if_false]
  rw [Input.advance_advance, ← List.length_append]
  cases role : suffix.role <;> simp [Suffix.inRole, role, styled]

theorem grow_stops (stops : ∀ suffix ∈ suffixes, Rejects style suffix.parser text) (start : Input)
    (limit : Nat) (nodes : List Node) {stop : Input} (styled : stop.style = style)
    (begins : stop.rest = text) : growFrom suffixes start limit nodes stop = (nodes, stop) := by
  cases limit with
  | zero => rfl
  | succ limit =>
      have none : firstSuffix suffixes nodes stop = none := by
        rw [firstSuffix, List.findSome?_eq_none_iff]
        intro suffix member
        rw [stops suffix member stop styled begins, Option.map_none, ite_self]
      simp only [growFrom, none]

theorem accepts_grow (token : Avoids style.startsTrivia (read ++ rest))
    (grown : GrowsTo style suffixes parser steps read rest shape) (room : steps ≤ read.length)
    (stops : ∀ suffix ∈ suffixes, Rejects style suffix.parser rest) :
    Accepts style (grow suffixes parser) read rest (Single shape) := by
  intro input styled start
  have quiet : skipTrivia input = ([], input) := skip_trivia_token (by rwa [styled, start])
  obtain ⟨first, length, node, result, shaped, reached⟩ := grown input styled start
  have enough : input.rest.length = input.rest.length - steps + steps := by
    have inside : read.length ≤ input.rest.length := by simp [start]
    omega
  have sameStyle : (input.advance read.length).style = style := by simpa using styled
  have stopped := grow_stops stops input (input.rest.length - steps) [node] sameStyle
    (rest_behind start)
  refine ⟨[node], ?_, node, rfl, shaped⟩
  rw [grow, quiet]
  simp only [result]
  rw [enough, reached, stopped]
  rfl

theorem accepts_grow_once (token : Avoids style.startsTrivia (read ++ rest))
    (grown : GrowsTo style suffixes parser steps read rest shape)
    (room : steps = 1 ∨ steps = 0 ∧ ∀ suffix ∈ suffixes, Rejects style suffix.parser rest) :
    Accepts style (growOnce suffixes parser) read rest (Single shape) := by
  intro input styled start
  have quiet : skipTrivia input = ([], input) := skip_trivia_token (by rwa [styled, start])
  obtain ⟨first, length, node, result, shaped, reached⟩ := grown input styled start
  have stopped : growFrom suffixes input 1 [first] (input.advance length) =
      ([node], input.advance read.length) := by
    rcases room with rfl | ⟨rfl, stops⟩
    · exact reached 0
    · rw [← grow_stops stops input 1 [node] (by simpa using styled) (rest_behind start)]
      exact reached 1
  refine ⟨[node], ?_, node, rfl, shaped⟩
  rw [growOnce, quiet]
  simp only [result, stopped]
  rfl

theorem rejects_grow (token : Avoids style.startsTrivia text) (rejects : Rejects style parser text) :
    Rejects style (grow suffixes parser) text :=
  rejects_start (fun _ quiet failed => by simp only [grow, quiet, failed]) token rejects

theorem rejects_grow_once (token : Avoids style.startsTrivia text)
    (rejects : Rejects style parser text) : Rejects style (growOnce suffixes parser) text :=
  rejects_start (fun _ quiet failed => by simp only [growOnce, quiet, failed]) token rejects

theorem loose_grow_once : Loose (growOnce suffixes parser) := by
  intro input c rest start blank
  simp only [growOnce, skip_trivia_blank start blank]

end Growth

end Parser

end PatternInspector.Syntax
