import Wiring.Declaration

/-!
# Failures

Why something could not be generated or written. Failures that come from the use of annotations name
the element at fault and end the work on the class it belongs to, and no other.

* `WriteError`: why a file could not be written;
* `Failure`, `Failure.element?`, `Failure.message`.
-/

namespace Wiring

/-- Why a file could not be written. -/
inductive WriteError where
  | notFound
  | alreadyExists
  | notADirectory
  | isADirectory
  | nameTooLong
  | forbiddenCharacter
  | other (text : String)
  deriving DecidableEq

/-- The text of a reason. -/
def WriteError.message : WriteError → String
  | .notFound => "No such file or directory (os error 2)"
  | .alreadyExists => "File exists (os error 17)"
  | .notADirectory => "Not a directory (os error 20)"
  | .isADirectory => "Is a directory (os error 21)"
  | .nameTooLong => "File name too long (os error 36)"
  | .forbiddenCharacter => "file name contained an unexpected NUL byte"
  | .other text => text

/-- Why something could not be generated or written. -/
inductive Failure where
  | missingCompanion (element : Element) (marker required : String)
  | invalidBoundType (element : Element) (boundType memberType : QualifiedName)
  | unresolvedScope (element : Element)
  | ambiguousScope (element : Element) (scopes : List QualifiedName)
  | annotationInvalid (element : Element) (ann : QualifiedName) (message : String)
  | artifactWrite (file : String) (reason : WriteError)
  | taskFailed (message : String)
  deriving DecidableEq

namespace Failure

/-- The element at fault. -/
def element? : Failure → Option Element
  | missingCompanion element _ _ => some element
  | invalidBoundType element _ _ => some element
  | unresolvedScope element => some element
  | ambiguousScope element _ => some element
  | annotationInvalid element _ _ => some element
  | artifactWrite _ _ => none
  | taskFailed _ => none

/-- The text of a failure. -/
def message : Failure → String
  | missingCompanion element marker required =>
    element.text ++ ": " ++ marker ++ " 注解只能用于同时标注了 " ++ required ++ " 的元素"
  | invalidBoundType element boundType memberType =>
    element.text ++ ": 绑定类型 " ++ boundType.text ++ " 不是 " ++ memberType.text ++ " 的父类型"
  | unresolvedScope element => element.text ++ ": 没有可用的默认作用域，且注解未显式声明作用域"
  | ambiguousScope element scopes =>
    element.text ++ ": 未显式声明作用域，而所在模块贡献到多个作用域: " ++
      ", ".intercalate (scopes.map (·.text))
  | annotationInvalid element ann message =>
    element.text ++ ": 注解 " ++ ann.text ++ " 无效: " ++ message
  | artifactWrite file reason => "生成文件写入失败: " ++ file ++ ", 原因: " ++ reason.message
  | taskFailed message => "生成任务执行失败: " ++ message

end Failure

end Wiring
