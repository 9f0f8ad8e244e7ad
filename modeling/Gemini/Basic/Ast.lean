import Gemini.VM.Value

/-!
# Parsed BASIC programs

Expressions, statements and numbered lines. The semantic analyzer checks a parsed program and
hands the same lines on, so the normalized form has these types too. Where the source marks a
part of a node as required, the part is always there; a value index that may be missing is a
node of its own.
-/

namespace Gemini.Basic

/-- The operators between two expressions. -/
inductive BinaryOp where
  | add
  | subtract
  | multiply
  | divide
  | equal
  | notEqual
  | lessThan
  | lessOrEqual
  | greaterThan
  | greaterOrEqual
deriving DecidableEq

/-- `BasicExpr`. -/
inductive Expr (Double : Type) where
  | intLiteral (value : Int)
  | floatLiteral (value : Double)
  | stringLiteral (value : String)
  | identifier (name : String)
  | negate (operand : Expr Double)
  | binary (op : BinaryOp) (left right : Expr Double)
  | grouped (expression : Expr Double)
  | subscript (varName : String) (index : Expr Double)
  | attributeAccess (varName : String) (attr : Expr Double)
  | valueAccess (varName : String) (attr valueIndex : Expr Double)
  | dictField (token : String)
  | functionCall (name : String) (arguments : List (Expr Double))

mutual

/-- The arm of a branch: a line to go to, or a statement in its place. -/
inductive BranchArm (Double : Type) where
  | line (target : Int)
  | inline (statement : Stmt Double)

/-- `BasicStmt`. -/
inductive Stmt (Double : Type) where
  | letStmt (variableName : String) (expression : Expr Double)
  | input (promptExpr : Option (Expr Double)) (variableName : String)
  | chain (programExpr : Expr Double)
  | goto (targetLine : Int)
  | gosub (targetLine : Int)
  | returnStmt
  | forStmt (variableName : String) (initExpr limitExpr : Expr Double)
      (stepExpr : Option (Expr Double))
  | next (variableName : String)
  | ifStmt (condition : Expr Double) (thenArm : BranchArm Double)
      (elseArm : Option (BranchArm Double))
  | print (expression : Expr Double) (suppressEol : Bool)
  | rem
  | stop
  | endStmt
  | dim (variableName : String) (sizeExpr : Expr Double)
  | letArray (variableName : String) (indexExpr valueExpr : Expr Double)
  | clear
  | openStmt (fileExpr : Expr Double) (fileVar : String) (elseArm : Option (BranchArm Double))
  | read (targetVar fileVar : String) (idExpr : Expr Double)
      (elseArm : Option (BranchArm Double))
  | readU (targetVar fileVar : String) (idExpr : Expr Double)
      (elseArm : Option (BranchArm Double))
  | write (valueExpr : Expr Double) (fileVar : String) (idExpr : Expr Double)
      (elseArm : Option (BranchArm Double))
  | writeU (valueExpr : Expr Double) (fileVar : String) (idExpr : Expr Double)
      (elseArm : Option (BranchArm Double))
  | readNext (targetVar fileVar : String) (elseArm : Option (BranchArm Double))
  | readV (targetVar fileVar : String) (idExpr attrExpr : Expr Double)
      (valueIndexExpr : Option (Expr Double)) (elseArm : Option (BranchArm Double))
  | writeV (valueExpr : Expr Double) (fileVar : String) (idExpr attrExpr : Expr Double)
      (valueIndexExpr : Option (Expr Double)) (elseArm : Option (BranchArm Double))
  | close (fileVar : String)
  | release (fileVar : String) (idExpr : Expr Double)
  /-- `ON ERROR GOTO` a line, or `ON ERROR STOP`. -/
  | onError (targetLine : Option Int)
  | matAssign (targetArray : String) (rhsExpr : Expr Double)
  | matCopy (targetArray rhsSourceArray : String)
  | matRead (targetArray fileVar : String) (idExpr : Expr Double)
      (elseArm : Option (BranchArm Double))
  | matWrite (sourceArray fileVar : String) (idExpr : Expr Double)
      (elseArm : Option (BranchArm Double))

end

/-- A numbered line of a program, with its statement. -/
structure BasicLine (Double : Type) where
  lineNumber : Int
  statement : Stmt Double

end Gemini.Basic
