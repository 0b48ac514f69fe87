import PageExtract.Css.Token

/-! A selector is a chain of compounds with combinators between them. The compound of the element
itself comes last. -/
namespace PageExtract.Css

inductive Combinator where
  | descendant
  | child
  | next
  | later
deriving DecidableEq

inductive Letters where
  | exact
  | anyCase
  | byElement
deriving DecidableEq

inductive AttributeScope where
  | plain
  | anywhere
deriving DecidableEq

structure AttributeTest where
  scope : AttributeScope
  name : String
  value : Option (Comparison × String × Letters)
deriving DecidableEq

inductive Counting where
  | fromStart
  | fromEnd
  | ofTypeFromStart
  | ofTypeFromEnd
deriving DecidableEq

mutual

inductive Simple where
  | universal
  | element (name : String)
  | noNamespace
  | id (name : String)
  | className (name : String)
  | attributeTest (test : AttributeTest)
  | nth (counting : Counting) (step offset : Int)
  | root
  | empty
  | scope
  | either (cs : List Complex)
  | not (cs : List Complex)
  | has (cs : List Complex)
  | anchor

inductive Complex where
  | compound (tests : List Simple)
  | step (before : Complex) (c : Combinator) (tests : List Simple)

end

end PageExtract.Css
