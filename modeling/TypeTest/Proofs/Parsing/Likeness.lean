import Mathlib.Data.List.Forall2
import TypeTest.Script.Node

/-!
# Trees that are alike

Two syntax trees are **alike** if they have the same nodes in the same places: of the same
forms, with the same names and values. How the ranges of corresponding nodes compare, and
how the texts of types do, is left open, for it is what two texts with alike trees may
differ in; the indices of nodes are not compared at all.
-/

namespace TypeTest

/-- **Forms that are alike**: of the same kind, with equal names and values, parts that
compare by `N`, and texts of types that compare by `X`. -/
inductive Form.Like {α β : Type} (N : α → β → Prop) (X : String → String → Prop) :
    Form α → Form β → Prop where
  | sourceFile {ns : List α} {ms : List β} : List.Forall₂ N ns ms →
    Like N X (.sourceFile ns) (.sourceFile ms)
  | block {ns : List α} {ms : List β} : List.Forall₂ N ns ms → Like N X (.block ns) (.block ms)
  | expressionStatement {n : α} {m : β} : N n m →
    Like N X (.expressionStatement n) (.expressionStatement m)
  | returnStatement {o : Option α} {p : Option β} : Option.Rel N o p →
    Like N X (.returnStatement o) (.returnStatement p)
  | importDeclaration : Like N X .importDeclaration .importDeclaration
  | skipped : Like N X .skipped .skipped
  | functionDeclaration {own : String} {names : List String} {ns : List α} {ms : List β}
      {o o' : Option α} {p p' : Option β} : List.Forall₂ N ns ms → Option.Rel N o p →
    Option.Rel N o' p' →
    Like N X (.functionDeclaration own names ns o o') (.functionDeclaration own names ms p p')
  | variableDeclaration {own : String} {o o' : Option α} {p p' : Option β} :
    Option.Rel N o p → Option.Rel N o' p' →
    Like N X (.variableDeclaration own o o') (.variableDeclaration own p p')
  | typeAlias {n : α} {m : β} : N n m → Like N X (.typeAlias n) (.typeAlias m)
  | parameter {own : String} {o o' : Option α} {p p' : Option β} :
    Option.Rel N o p → Option.Rel N o' p' →
    Like N X (.parameter own o o') (.parameter own p p')
  | typeText {s s' : String} : X s s' → Like N X (.typeText s) (.typeText s')
  | call {n : α} {m : β} {ns ns' : List α} {ms ms' : List β} : N n m → List.Forall₂ N ns ms →
    List.Forall₂ N ns' ms' → Like N X (.call n ns ns') (.call m ms ms')
  | identifier {own : String} : Like N X (.identifier own) (.identifier own)
  | stringLiteral {value : String} : Like N X (.stringLiteral value) (.stringLiteral value)
  | templateLiteral : Like N X .templateLiteral .templateLiteral
  | numericLiteral {text : String} : Like N X (.numericLiteral text) (.numericLiteral text)
  | propertyAccess {n : α} {m : β} {own : String} : N n m →
    Like N X (.propertyAccess n own) (.propertyAccess m own)
  | parenthesized {n : α} {m : β} : N n m → Like N X (.parenthesized n) (.parenthesized m)
  | function {ns : List α} {ms : List β} {o : Option α} {p : Option β} {n : α} {m : β} :
    List.Forall₂ N ns ms → Option.Rel N o p → N n m →
    Like N X (.function ns o n) (.function ms p m)
  | arrayLiteral {ns : List α} {ms : List β} : List.Forall₂ N ns ms →
    Like N X (.arrayLiteral ns) (.arrayLiteral ms)
  | objectLiteral {ns : List α} {ms : List β} : List.Forall₂ N ns ms →
    Like N X (.objectLiteral ns) (.objectLiteral ms)
  | propertyAssignment {own : String} {n : α} {m : β} : N n m →
    Like N X (.propertyAssignment own n) (.propertyAssignment own m)
  | shorthandProperty : Like N X .shorthandProperty .shorthandProperty
  | method {n : α} {m : β} : N n m → Like N X (.method n) (.method m)
  | spread {n : α} {m : β} : N n m → Like N X (.spread n) (.spread m)
  | operands {ns : List α} {ms : List β} : List.Forall₂ N ns ms →
    Like N X (.operands ns) (.operands ms)

/-- **Nodes that are alike**, with all nodes below them: their ranges compare by `R`, and the
texts of types by `X`. -/
inductive Node.Like (R : TextRange → TextRange → Prop) (X : String → String → Prop) :
    Node → Node → Prop where
  | mk {form form' : Form Node} {range range' : TextRange} {index index' : Nat} :
    Form.Like (Node.Like R X) X form form' → R range range' →
    Node.Like R X (.mk form range index) (.mk form' range' index')

end TypeTest
