import AgentServe.DemoAgent.Tools
import AgentServe.Lib.Numbers

/-!
# The calculator

An expression is parsed by the language itself, and its tree is evaluated by recursion.
A constant has a value if it is an instance of the integers or of the floats, and an
operator is applied if it is one of eight. Every other node raises. So do an operator
without a result and a tree that is too deep, all inside one handler of exceptions.

What a tree means is stated apart from the evaluation: six operators with two operands
and two with one have a meaning (`BinaryOperator.Means`, `UnaryOperator.Means`), and a
tree has the value that its operators give to the values of their operands (`Denotes`).
The evaluation finds that value (`evalNode_eq_ok_iff`), and it applies the operators of
the tree to the values of their operands and nothing else (`callOf_of_mem_calls`).

But Booleans are integers, and a negative number to the power of a fraction is complex.
So the calculator keeps to the arithmetic of real numbers exactly if an expression that
has a value has neither of them, and if the value is shown by no more characters than a
result takes (`calculates_arithmetic_iff`).

The parser, the frames that are left for the recursion, the arithmetic of complex
numbers and the texts of the language's own exceptions are parameters.
-/

set_option autoImplicit false

namespace AgentServe

open Lib

/-! ## Trees -/

/-- The value of a constant. -/
inductive Literal where
  | none
  | ellipsis
  | bool (b : Bool)
  | int (n : ℤ)
  | float (x : Float)
  | complex (imaginary : Float)
  | str (s : String)
  | bytes (b : List UInt8)

inductive BinaryOperator where
  | add
  | sub
  | mult
  | matMult
  | div
  | mod
  | pow
  | lShift
  | rShift
  | bitOr
  | bitXor
  | bitAnd
  | floorDiv
deriving DecidableEq, Repr

inductive UnaryOperator where
  | invert
  | not
  | uAdd
  | uSub
deriving DecidableEq, Repr

/-- A node of a parsed expression. Of the other nodes nothing but the name of the type is read. -/
inductive Node where
  | constant (value : Literal)
  | binOp (left : Node) (op : BinaryOperator) (right : Node)
  | unaryOp (op : UnaryOperator) (operand : Node)
  | other (typeName : String)

/-- The operators that are carried out. -/
def BinaryOperator.safe? : BinaryOperator → Option Operator
  | .add => some .add
  | .sub => some .sub
  | .mult => some .mul
  | .div => some .div
  | .pow => some .pow
  | .mod => some .mod
  | _ => none

def UnaryOperator.safe? : UnaryOperator → Option SignOperator
  | .uSub => some .neg
  | .uAdd => some .pos
  | _ => none

/-- A constant that is an instance of the integers or of the floats. -/
def Literal.number? {ζ : Type} : Literal → Option (Number ζ)
  | .bool b => some (.bool b)
  | .int n => some (.int n)
  | .float x => some (.float x)
  | _ => .none

/-! ## Evaluation -/

inductive EvalError where
  | unsupportedNode (typeName : String)
  | arithmetic (e : ArithmeticError)
  | recursion

/-- An operator that was applied. -/
inductive OperatorCall (ζ : Type) where
  | binary (op : Operator) (x y : Number ζ)
  | unary (op : SignOperator) (x : Number ζ)

/-- The value of a node, with the operators that were applied. Every node takes a frame. -/
def evalNode (c : ComplexArithmetic) :
    Node → ℕ → List (OperatorCall c.Value) × Except EvalError (Number c.Value)
  | _, 0 => ([], .error .recursion)
  | .constant value, _ + 1 =>
    ([], value.number?.elim (.error (.unsupportedNode "Constant")) .ok)
  | .binOp left op right, frames + 1 =>
    match op.safe? with
    | none => ([], .error (.unsupportedNode "BinOp"))
    | some f =>
      match evalNode c left frames with
      | (calls, .error e) => (calls, .error e)
      | (calls, .ok x) =>
        match evalNode c right frames with
        | (more, .error e) => (calls ++ more, .error e)
        | (more, .ok y) =>
          (calls ++ more ++ [.binary f x y], (Number.apply c f x y).mapError .arithmetic)
  | .unaryOp op operand, frames + 1 =>
    match op.safe? with
    | none => ([], .error (.unsupportedNode "UnaryOp"))
    | some f =>
      match evalNode c operand frames with
      | (calls, .error e) => (calls, .error e)
      | (calls, .ok x) => (calls ++ [.unary f x], .ok (Number.applySign c f x))
  | .other typeName, _ + 1 => ([], .error (.unsupportedNode typeName))

/-- What the calculator runs in. -/
structure Interpreter where
  parse : Text → Except Text Node
  frames : ℕ
  complex : ComplexArithmetic
  raisedText : Text → EvalError → Text

namespace Interpreter

variable (i : Interpreter)

/-- The text of an exception, for an expression. -/
def message (expression : Text) : EvalError → Text
  | .unsupportedNode typeName => "unsupported expression node: " ++ typeName
  | e => i.raisedText expression e

/-- Parse and evaluate a text, and show the value. -/
def evaluate (text : Text) : List (OperatorCall i.complex.Value) × Except Text Text :=
  match i.parse text with
  | .error message => ([], .error message)
  | .ok tree =>
    let (calls, outcome) := evalNode i.complex tree i.frames
    let shown := do
      let x ← outcome
      let printed ← (x.shown i.complex).mapError .arithmetic
      return Text.ofString printed
    (calls, shown.mapError (i.message text))

/-- The calculator of the agent, in an interpreter. -/
def calculate (str : PyData Text → Text) (expression : Text) : ToolResult :=
  calculator str (fun text => (i.evaluate text).2) (.str expression)

end Interpreter

/-! ## The meaning of a tree -/

/-- The six operators of arithmetic with two operands, and what they mean. -/
inductive BinaryOperator.Means : BinaryOperator → Operator → Prop where
  | add : Means .add .add
  | sub : Means .sub .sub
  | mult : Means .mult .mul
  | div : Means .div .div
  | mod : Means .mod .mod
  | pow : Means .pow .pow

/-- The two operators of arithmetic with one operand, and what they mean. -/
inductive UnaryOperator.Means : UnaryOperator → SignOperator → Prop where
  | uAdd : Means .uAdd .pos
  | uSub : Means .uSub .neg

/-- A tree has a value. Booleans have values, too. -/
inductive Denotes (c : ComplexArithmetic) : Node → Number c.Value → Prop where
  | bool {b : Bool} : Denotes c (.constant (.bool b)) (.bool b)
  | int {n : ℤ} : Denotes c (.constant (.int n)) (.int n)
  | float {x : Float} : Denotes c (.constant (.float x)) (.float x)
  | binOp {left right : Node} {op : BinaryOperator} {f : Operator} {x y z : Number c.Value}
      (first : Denotes c left x) (second : Denotes c right y) (meaning : op.Means f)
      (applied : Number.apply c f x y = .ok z) : Denotes c (.binOp left op right) z
  | unaryOp {operand : Node} {op : UnaryOperator} {f : SignOperator} {x : Number c.Value}
      (inner : Denotes c operand x) (meaning : op.Means f) :
      Denotes c (.unaryOp op operand) (Number.applySign c f x)

/-- An operator of a tree, with the values of its operands. -/
inductive CallOf (c : ComplexArithmetic) : Node → OperatorCall c.Value → Prop where
  | binary {left right : Node} {op : BinaryOperator} {f : Operator} {x y : Number c.Value}
      (meaning : op.Means f) (first : Denotes c left x) (second : Denotes c right y) :
      CallOf c (.binOp left op right) (.binary f x y)
  | unary {operand : Node} {op : UnaryOperator} {f : SignOperator} {x : Number c.Value}
      (meaning : op.Means f) (inner : Denotes c operand x) :
      CallOf c (.unaryOp op operand) (.unary f x)
  | inLeft {left right : Node} {op : BinaryOperator} {call : OperatorCall c.Value}
      (inside : CallOf c left call) : CallOf c (.binOp left op right) call
  | inRight {left right : Node} {op : BinaryOperator} {call : OperatorCall c.Value}
      (inside : CallOf c right call) : CallOf c (.binOp left op right) call
  | inOperand {operand : Node} {op : UnaryOperator} {call : OperatorCall c.Value}
      (inside : CallOf c operand call) : CallOf c (.unaryOp op operand) call

namespace Node

def depth : Node → ℕ
  | .binOp left _ right => max left.depth right.depth + 1
  | .unaryOp _ operand => operand.depth + 1
  | _ => 1

/-- The tree is built from integer and float literals with the operators of arithmetic. -/
def IsArithmetic : Node → Prop
  | .constant (.int _) => True
  | .constant (.float _) => True
  | .binOp left op right =>
    op ∈ [.add, .sub, .mult, .div, .mod, .pow] ∧ left.IsArithmetic ∧ right.IsArithmetic
  | .unaryOp op operand => op ∈ [.uAdd, .uSub] ∧ operand.IsArithmetic
  | _ => False

/-- No operand in the tree is a Boolean literal. -/
def Booleanless : Node → Prop
  | .constant (.bool _) => False
  | .binOp left _ right => left.Booleanless ∧ right.Booleanless
  | .unaryOp _ operand => operand.Booleanless
  | _ => True

/-- No power in the tree raises a negative number to a fraction. -/
def RealPowers (c : ComplexArithmetic) : Node → Prop
  | .binOp left op right => left.RealPowers c ∧ right.RealPowers c ∧
      (op = .pow → ∀ x y, Denotes c left x → Denotes c right y →
        ¬ (x.isNegative = true ∧ y.isFraction = true))
  | .unaryOp _ operand => operand.RealPowers c
  | _ => True

end Node

section Meaning

variable {c : ComplexArithmetic}

/-- The operators that are carried out are those of arithmetic, by their meaning. -/
theorem BinaryOperator.safe?_eq_some_iff {op : BinaryOperator} {f : Operator} :
    op.safe? = some f ↔ op.Means f := by
  constructor
  · intro safe
    cases op <;> cases safe <;> constructor
  · rintro ⟨⟩ <;> rfl

theorem UnaryOperator.safe?_eq_some_iff {op : UnaryOperator} {f : SignOperator} :
    op.safe? = some f ↔ op.Means f := by
  constructor
  · intro safe
    cases op <;> cases safe <;> constructor
  · rintro ⟨⟩ <;> rfl

/-- An operator has at most one meaning. -/
theorem BinaryOperator.Means.unique {op : BinaryOperator} {f g : Operator} (first : op.Means f)
    (second : op.Means g) : f = g := by
  cases first <;> cases second <;> rfl

theorem UnaryOperator.Means.unique {op : UnaryOperator} {f g : SignOperator} (first : op.Means f)
    (second : op.Means g) : f = g := by
  cases first <;> cases second <;> rfl

/-- An operator with a meaning is one of the six. -/
theorem BinaryOperator.Means.mem {op : BinaryOperator} {f : Operator} (meaning : op.Means f) :
    op ∈ [.add, .sub, .mult, .div, .mod, .pow] := by
  cases meaning <;> decide

theorem UnaryOperator.Means.mem {op : UnaryOperator} {f : SignOperator} (meaning : op.Means f) :
    op ∈ [.uAdd, .uSub] := by
  cases meaning <;> decide

/-- A tree has at most one value. -/
theorem Denotes.unique {node : Node} {x y : Number c.Value} (first : Denotes c node x)
    (second : Denotes c node y) : x = y := by
  induction first generalizing y with
  | bool =>
      cases second
      rfl
  | int =>
      cases second
      rfl
  | float =>
      cases second
      rfl
  | binOp _ _ meaning applied left_ih right_ih =>
      cases second with
      | binOp left_value right_value also_meaning also_applied =>
          cases left_ih left_value
          cases right_ih right_value
          cases meaning.unique also_meaning
          exact Except.ok.inj (applied.symm.trans also_applied)
  | unaryOp _ meaning ih =>
      cases second with
      | unaryOp value also_meaning =>
          cases ih value
          cases meaning.unique also_meaning
          rfl

/-- A constant is evaluated to the value that it has. -/
theorem evalNode_constant_eq_ok_iff {value : Literal} {frames : ℕ} {x : Number c.Value} :
    (evalNode c (.constant value) (frames + 1)).2 = .ok x ↔ Denotes c (.constant value) x := by
  simp only [evalNode]
  constructor
  · intro evaluated
    cases value with
    | bool b =>
        cases evaluated
        exact .bool
    | int n =>
        cases evaluated
        exact .int
    | float y =>
        cases evaluated
        exact .float
    | _ => cases evaluated
  · rintro (_ | _ | _) <;> rfl

theorem evalNode_binOp_eq_ok_iff {left right : Node} {op : BinaryOperator} {frames : ℕ}
    {z : Number c.Value} :
    (evalNode c (.binOp left op right) (frames + 1)).2 = .ok z ↔
      ∃ f x y, op.Means f ∧ (evalNode c left frames).2 = .ok x ∧
        (evalNode c right frames).2 = .ok y ∧ Number.apply c f x y = .ok z := by
  simp only [evalNode, ← BinaryOperator.safe?_eq_some_iff]
  cases op.safe? with
  | none => simp
  | some f =>
      rcases evalNode c left frames with ⟨calls, e | x⟩
      · simp
      · rcases evalNode c right frames with ⟨more, e | y⟩
        · simp
        · simp [mapError_eq_ok_iff]

theorem evalNode_unaryOp_eq_ok_iff {operand : Node} {op : UnaryOperator} {frames : ℕ}
    {z : Number c.Value} :
    (evalNode c (.unaryOp op operand) (frames + 1)).2 = .ok z ↔
      ∃ f x, op.Means f ∧ (evalNode c operand frames).2 = .ok x ∧
        Number.applySign c f x = z := by
  simp only [evalNode, ← UnaryOperator.safe?_eq_some_iff]
  cases op.safe? with
  | none => simp
  | some f =>
      rcases evalNode c operand frames with ⟨calls, e | x⟩
      · simp
      · simp

/-- Every node takes a frame. -/
theorem Node.depth_pos (node : Node) : 0 < node.depth := by
  cases node with
  | binOp left op right => exact Nat.succ_pos _
  | unaryOp op operand => exact Nat.succ_pos _
  | _ => exact Nat.one_pos

theorem evalNode_zero (node : Node) : evalNode c node 0 = ([], .error .recursion) := by
  cases node <;> rfl

/-- **Evaluation.** A tree is evaluated to a value exactly if it has that value, and there are
frames for its depth. -/
theorem evalNode_eq_ok_iff {node : Node} {frames : ℕ} {x : Number c.Value} :
    (evalNode c node frames).2 = .ok x ↔ Denotes c node x ∧ node.depth ≤ frames := by
  induction frames generalizing node x with
  | zero =>
      rw [evalNode_zero]
      exact iff_of_false nofun fun meaning => Nat.not_lt.mpr meaning.2 node.depth_pos
  | succ frames ih =>
      cases node with
      | constant value =>
          rw [evalNode_constant_eq_ok_iff]
          exact (and_iff_left (Nat.succ_pos frames)).symm
      | binOp left op right =>
          rw [evalNode_binOp_eq_ok_iff]
          constructor
          · rintro ⟨f, y, z, safe, first, second, applied⟩
            obtain ⟨left_value, left_fits⟩ := ih.mp first
            obtain ⟨right_value, right_fits⟩ := ih.mp second
            exact ⟨.binOp left_value right_value safe applied,
              Nat.succ_le_succ (Nat.max_le.mpr ⟨left_fits, right_fits⟩)⟩
          · rintro ⟨value, fits⟩
            obtain ⟨left_fits, right_fits⟩ := Nat.max_le.mp (Nat.le_of_succ_le_succ fits)
            cases value with
            | binOp left_value right_value safe applied =>
                exact ⟨_, _, _, safe, ih.mpr ⟨left_value, left_fits⟩,
                  ih.mpr ⟨right_value, right_fits⟩, applied⟩
      | unaryOp op operand =>
          rw [evalNode_unaryOp_eq_ok_iff]
          constructor
          · rintro ⟨f, y, safe, inner, rfl⟩
            obtain ⟨value, fits⟩ := ih.mp inner
            exact ⟨.unaryOp value safe, Nat.succ_le_succ fits⟩
          · rintro ⟨value, fits⟩
            cases value with
            | unaryOp inner safe =>
                exact ⟨_, _, safe, ih.mpr ⟨inner, Nat.le_of_succ_le_succ fits⟩, rfl⟩
      | other typeName => exact iff_of_false nofun nofun

/-- An operator is applied after the operands of its node are evaluated. -/
theorem mem_calls_binOp {left right : Node} {op : BinaryOperator} {frames : ℕ}
    {call : OperatorCall c.Value}
    (member : call ∈ (evalNode c (.binOp left op right) (frames + 1)).1) :
    call ∈ (evalNode c left frames).1 ∨ call ∈ (evalNode c right frames).1 ∨
      ∃ f x y, op.Means f ∧ (evalNode c left frames).2 = .ok x ∧
        (evalNode c right frames).2 = .ok y ∧ call = .binary f x y := by
  simp only [evalNode] at member
  cases safe : op.safe? with
  | none =>
      rw [safe] at member
      cases member
  | some f =>
      rw [safe] at member
      generalize evalNode c left frames = first at member ⊢
      generalize evalNode c right frames = second at member ⊢
      rcases first with ⟨calls, e | x⟩
      · exact .inl member
      · rcases second with ⟨more, e | y⟩
        · rcases List.mem_append.mp member with earlier | later
          · exact .inl earlier
          · exact .inr (.inl later)
        · rcases List.mem_append.mp member with operand | applied
          · rcases List.mem_append.mp operand with earlier | later
            · exact .inl earlier
            · exact .inr (.inl later)
          · exact .inr (.inr ⟨f, x, y, BinaryOperator.safe?_eq_some_iff.mp safe, rfl, rfl,
              List.mem_singleton.mp applied⟩)

theorem mem_calls_unaryOp {operand : Node} {op : UnaryOperator} {frames : ℕ}
    {call : OperatorCall c.Value}
    (member : call ∈ (evalNode c (.unaryOp op operand) (frames + 1)).1) :
    call ∈ (evalNode c operand frames).1 ∨
      ∃ f x, op.Means f ∧ (evalNode c operand frames).2 = .ok x ∧ call = .unary f x := by
  simp only [evalNode] at member
  cases safe : op.safe? with
  | none =>
      rw [safe] at member
      cases member
  | some f =>
      rw [safe] at member
      generalize evalNode c operand frames = inner at member ⊢
      rcases inner with ⟨calls, e | x⟩
      · exact .inl member
      · rcases List.mem_append.mp member with earlier | applied
        · exact .inl earlier
        · exact .inr ⟨f, x, UnaryOperator.safe?_eq_some_iff.mp safe, rfl,
            List.mem_singleton.mp applied⟩

/-- **Calls.** An evaluation applies the operators of its tree, to the values of their operands, and
nothing else. -/
theorem callOf_of_mem_calls {node : Node} {frames : ℕ} {call : OperatorCall c.Value}
    (member : call ∈ (evalNode c node frames).1) : CallOf c node call := by
  induction frames generalizing node with
  | zero =>
      rw [evalNode_zero] at member
      cases member
  | succ frames ih =>
      cases node with
      | constant value => cases member
      | binOp left op right =>
          rcases mem_calls_binOp member with earlier | later | ⟨f, x, y, safe, first, second, rfl⟩
          · exact .inLeft (ih earlier)
          · exact .inRight (ih later)
          · exact .binary safe (evalNode_eq_ok_iff.mp first).1 (evalNode_eq_ok_iff.mp second).1
      | unaryOp op operand =>
          rcases mem_calls_unaryOp member with earlier | ⟨f, x, safe, inner, rfl⟩
          · exact .inOperand (ih earlier)
          · exact .unary safe (evalNode_eq_ok_iff.mp inner).1
      | other typeName => cases member

/-- A tree with a value is arithmetic exactly if no operand is a Boolean. -/
theorem Denotes.isArithmetic_iff {node : Node} {x : Number c.Value} (value : Denotes c node x) :
    node.IsArithmetic ↔ node.Booleanless := by
  induction value with
  | bool => exact Iff.rfl
  | int => exact Iff.rfl
  | float => exact Iff.rfl
  | binOp _ _ meaning _ left_ih right_ih =>
      simp only [Node.IsArithmetic, Node.Booleanless, meaning.mem, true_and, left_ih, right_ih]
  | unaryOp _ meaning ih =>
      simp only [Node.IsArithmetic, Node.Booleanless, meaning.mem, true_and, ih]

/-- An operator leaves the reals exactly if it is a power of a negative number to a fraction. -/
theorem BinaryOperator.Means.leavesReals_eq_false_iff {op : BinaryOperator} {f : Operator}
    (meaning : op.Means f) (x y : Number c.Value) :
    Number.leavesReals f x y = false ↔
      (op = .pow → ¬ (x.isNegative = true ∧ y.isFraction = true)) := by
  cases meaning <;> simp [Number.leavesReals]

/-- The value of a tree is real exactly if no power in it leaves the reals. -/
theorem Denotes.isReal_iff {node : Node} {x : Number c.Value} (value : Denotes c node x) :
    x.isReal = true ↔ node.RealPowers c := by
  induction value with
  | bool => exact iff_of_true rfl trivial
  | int => exact iff_of_true rfl trivial
  | float => exact iff_of_true rfl trivial
  | @binOp left right op f x y z first second meaning applied left_ih right_ih =>
      rw [Number.isReal_of_apply applied, left_ih, right_ih, meaning.leavesReals_eq_false_iff]
      constructor
      · rintro ⟨left_real, right_real, stays⟩
        refine ⟨left_real, right_real, fun power v w also_first also_second => ?_⟩
        cases first.unique also_first
        cases second.unique also_second
        exact stays power
      · rintro ⟨left_real, right_real, stays⟩
        exact ⟨left_real, right_real, fun power => stays power x y first second⟩
  | unaryOp _ _ ih =>
      rw [Number.isReal_applySign, ih]
      exact Iff.rfl

end Meaning

/-! ## Keeping to arithmetic -/

namespace Interpreter

variable (i : Interpreter)

/-- A text is parsed to a tree with a value that is shown. There are frames for the tree. -/
structure Prints (text : Text) (tree : Node) (x : Number i.complex.Value) (printed : String) :
    Prop where
  parsed : i.parse text = .ok tree
  value : Denotes i.complex tree x
  fits : tree.depth ≤ i.frames
  shown : x.shown i.complex = .ok printed

/-- The calculator keeps to arithmetic. It accepts nothing but trees of arithmetic with a real
value, which it answers, it refuses everything else, and it applies no operators but those of the
tree. -/
structure CalculatesArithmetic (str : PyData Text → Text) (expression : Text) : Prop where
  accepted : (i.calculate str expression).status = .ok → ∃ tree x printed,
    i.parse (Text.stripped expression) = .ok tree ∧ tree.IsArithmetic ∧
      Denotes i.complex tree x ∧ x.isReal = true ∧ x.shown i.complex = .ok printed ∧
      (i.calculate str expression).output = Text.ofString printed
  refused : (∀ tree x, i.parse (Text.stripped expression) = .ok tree → tree.IsArithmetic →
    ¬ Denotes i.complex tree x) → (i.calculate str expression).status = .error
  contained : ∀ call ∈ (i.evaluate (Text.stripped expression)).1, ∃ tree,
    i.parse (Text.stripped expression) = .ok tree ∧ CallOf i.complex tree call

/-- A tree whose value is printed has no Booleans and no powers that leave the reals, and the text
is not too long for a result. -/
def PrintsArithmetic (expression : Text) : Prop :=
  ∀ tree x printed, i.Prints (Text.stripped expression) tree x printed →
    tree.Booleanless ∧ tree.RealPowers i.complex ∧ printed.length ≤ ToolResult.maxChars

variable {i}

theorem evaluate_eq_ok_iff {text output : Text} :
    (i.evaluate text).2 = .ok output ↔
      ∃ tree x printed, i.Prints text tree x printed ∧ Text.ofString printed = output := by
  unfold evaluate
  cases parsed : i.parse text with
  | error message =>
      refine iff_of_false nofun ?_
      rintro ⟨tree, x, printed, prints, _⟩
      cases parsed.symm.trans prints.parsed
  | ok tree =>
      simp only [mapError_eq_ok_iff, bind_eq_ok_iff, evalNode_eq_ok_iff]
      constructor
      · rintro ⟨x, ⟨value, fits⟩, printed, shown, returned⟩
        exact ⟨tree, x, printed, ⟨parsed, value, fits, shown⟩, Except.ok.inj returned⟩
      · rintro ⟨other, x, printed, prints, rfl⟩
        cases parsed.symm.trans prints.parsed
        exact ⟨x, ⟨prints.value, prints.fits⟩, printed, prints.shown, rfl⟩

/-- A value that is printed is the result, as far as a result takes its text. -/
theorem Prints.calculate_eq {str : PyData Text → Text} {expression : Text} {printed : String}
    {tree : Node} {x : Number i.complex.Value}
    (prints : i.Prints (Text.stripped expression) tree x printed) :
    i.calculate str expression = .ok (Text.ofString printed) := by
  have evaluated := evaluate_eq_ok_iff.mpr ⟨tree, x, printed, prints, rfl⟩
  simp only [calculate, calculator, evaluated]

theorem calculate_status_ok_iff {str : PyData Text → Text} {expression : Text} :
    (i.calculate str expression).status = .ok ↔
      ∃ tree x printed, i.Prints (Text.stripped expression) tree x printed := by
  constructor
  · intro accepted
    cases outcome : (i.evaluate (Text.stripped expression)).2 with
    | error message =>
        simp only [calculate, calculator, outcome] at accepted
        cases accepted
    | ok output =>
        obtain ⟨tree, x, printed, prints, _⟩ := evaluate_eq_ok_iff.mp outcome
        exact ⟨tree, x, printed, prints⟩
  · rintro ⟨tree, x, printed, prints⟩
    rw [prints.calculate_eq]
    rfl

/-- What is not answered is refused. -/
theorem calculate_status_eq_error {str : PyData Text → Text} {expression : Text}
    (unanswered : (i.calculate str expression).status ≠ .ok) :
    (i.calculate str expression).status = .error := by
  cases outcome : (i.evaluate (Text.stripped expression)).2 with
  | error message =>
      simp only [calculate, calculator, outcome]
      rfl
  | ok output =>
      obtain ⟨tree, x, printed, prints, _⟩ := evaluate_eq_ok_iff.mp outcome
      exact absurd (calculate_status_ok_iff.mpr ⟨tree, x, printed, prints⟩) unanswered

theorem callOf_of_mem_evaluate {text : Text} {call : OperatorCall i.complex.Value}
    (member : call ∈ (i.evaluate text).1) :
    ∃ tree, i.parse text = .ok tree ∧ CallOf i.complex tree call := by
  unfold evaluate at member
  cases parsed : i.parse text with
  | error message =>
      rw [parsed] at member
      cases member
  | ok tree =>
      rw [parsed] at member
      exact ⟨tree, rfl, callOf_of_mem_calls member⟩

end Interpreter

/-- **Arithmetic.** The calculator keeps to arithmetic exactly if an expression whose value is
printed has no Booleans, raises no negative number to a fraction, and has a printed value that is
not too long for a result. -/
theorem calculates_arithmetic_iff (i : Interpreter) (str : PyData Text → Text) (expression : Text) :
    i.CalculatesArithmetic str expression ↔ i.PrintsArithmetic expression := by
  constructor
  · intro keeps tree x printed prints
    obtain ⟨other, y, text, parsed, arithmetic, value, real, shown, answer⟩ :=
      keeps.accepted (Interpreter.calculate_status_ok_iff.mpr ⟨tree, x, printed, prints⟩)
    cases prints.parsed.symm.trans parsed
    cases prints.value.unique value
    cases prints.shown.symm.trans shown
    rw [prints.calculate_eq] at answer
    have short := ToolResult.ok_output_eq_iff.mp answer
    rw [Text.length_ofString] at short
    exact ⟨value.isArithmetic_iff.mp arithmetic, value.isReal_iff.mp real, short⟩
  · intro arithmetic
    refine ⟨fun accepted => ?_, fun undefined => ?_, fun call member => ?_⟩
    · obtain ⟨tree, x, printed, prints⟩ := Interpreter.calculate_status_ok_iff.mp accepted
      obtain ⟨booleanless, realPowers, short⟩ := arithmetic tree x printed prints
      refine ⟨tree, x, printed, prints.parsed, prints.value.isArithmetic_iff.mpr booleanless,
        prints.value, prints.value.isReal_iff.mpr realPowers, prints.shown, ?_⟩
      rw [prints.calculate_eq, ToolResult.ok_output_eq_iff, Text.length_ofString]
      exact short
    · refine Interpreter.calculate_status_eq_error fun accepted => ?_
      obtain ⟨tree, x, printed, prints⟩ := Interpreter.calculate_status_ok_iff.mp accepted
      obtain ⟨booleanless, _, _⟩ := arithmetic tree x printed prints
      exact undefined tree x prints.parsed (prints.value.isArithmetic_iff.mpr booleanless)
        prints.value
    · exact Interpreter.callOf_of_mem_evaluate member

/-- The tree of `True + 1`. -/
def sumOfBoolean : Node := .binOp (.constant (.bool true)) .add (.constant (.int 1))

/-- The tree of `(-8) ** 0.5`. -/
def rootOfNegative : Node :=
  .binOp (.unaryOp .uSub (.constant (.int 8))) .pow (.constant (.float 0.5))

/-- An interpreter whose parser knows two texts. -/
def twoTexts : Interpreter where
  parse text :=
    if text = "True + 1" then .ok sumOfBoolean
    else if text = "(-8) ** 0.5" then .ok rootOfNegative
    else .error "invalid syntax (<unknown>, line 1)"
  frames := 900
  complex := .pairs
  raisedText _ _ := "unsupported operand type(s)"

/-- The text of a value that is a string. -/
def plainText : PyData Text → Text
  | .str text => text
  | v => v.typeName

/-- A Boolean is added, and the root of a negative number is answered. -/
theorem booleans_and_roots_are_answered :
    ¬ twoTexts.CalculatesArithmetic plainText "True + 1" ∧
      ¬ twoTexts.CalculatesArithmetic plainText "(-8) ** 0.5" := by
  constructor
  · intro keeps
    obtain ⟨tree, _, _, parsed, arithmetic, _⟩ := keeps.accepted (by decide +kernel)
    cases parsed
    exact arithmetic.2.1
  · intro keeps
    obtain ⟨tree, x, _, parsed, _, value, real, _⟩ := keeps.accepted (by decide +kernel)
    cases parsed
    have negative : Denotes twoTexts.complex (.unaryOp .uSub (.constant (.int 8))) (.int (-8)) :=
      .unaryOp .int .uSub
    have stays := (value.isReal_iff.mp real).2.2 rfl (.int (-8)) (.float 0.5) negative .float
    exact stays (by decide +kernel)

end AgentServe
