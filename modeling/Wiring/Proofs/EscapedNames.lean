import Mathlib.Algebra.Order.BigOperators.Group.List
import Mathlib.Algebra.Order.Group.Nat
import Wiring.Proofs.Layout
import Wiring.Proofs.ProvisionsPass

/-!
# Escaped names

The text of a file consists of signs, of literals, and of names that come from declarations. Names
of packages, classes, interfaces and members are written between back-ticks if they are hard
keywords. Names of arguments and of entries of enumerations are written as they are.

* `NamePlace`, `Token`, `tokensText`: pieces of texts, of which names are written depending on where
  they stand;
* `SourceFile.tokens`: the pieces of a file; `SourceFile.render_eq_tokensText`: its text;
* `bareNames`, `tokensText_write_eq_iff`: names that are written as they are;
* `IsSynthesized`, **`IsSynthesized.render_eq_escaped_iff`**: files that are made of declarations.
-/

namespace Wiring

namespace Kotlin

open Text

/-! ## Pieces of texts -/

/-- Where a name stands in a file. -/
inductive NamePlace where
  | package
  | imported
  | type
  | interface
  | member
  | argument
  | entry
  deriving DecidableEq

/-- A piece of the text of a file. -/
inductive Token where
  | sign (text : String)
  | string (text : String)
  | int (value : Int)
  | name (place : NamePlace) (name : String)
  deriving DecidableEq

/-- The text of a piece, given how names are written. -/
def Token.text (write : NamePlace → String → String) : Token → String
  | .sign text => text
  | .string text => quote text
  | .int value => toString value
  | .name place part => write place part

/-- The text of pieces. -/
def tokensText (write : NamePlace → String → String) (tokens : List Token) : String :=
  String.join (tokens.map (Token.text write))

section

variable (write : NamePlace → String → String)

@[simp] theorem tokensText_nil : tokensText write [] = "" := rfl

@[simp] theorem tokensText_cons (token : Token) (tokens : List Token) :
    tokensText write (token :: tokens) = token.text write ++ tokensText write tokens := by
  rw [tokensText, List.map_cons, String.join_cons]
  rfl

@[simp] theorem tokensText_append (as bs : List Token) :
    tokensText write (as ++ bs) = tokensText write as ++ tokensText write bs := by
  rw [tokensText, List.map_append, String.join_append]
  rfl

theorem tokensText_sign (text : String) : tokensText write [.sign text] = text := by
  simp [Token.text]

theorem tokensText_flatMap {α : Type} (items : List α) (tokens : α → List Token) :
    tokensText write (items.flatMap tokens) =
      String.join (items.map fun item => tokensText write (tokens item)) := by
  induction items with
  | nil => rfl
  | cons item items ih =>
    rw [List.flatMap_cons, tokensText_append, ih, List.map_cons, String.join_cons]

theorem tokensText_intercalate (separator : List Token) (blocks : List (List Token)) :
    tokensText write (separator.intercalate blocks) =
      (tokensText write separator).intercalate (blocks.map (tokensText write)) :=
  write_intercalate rfl (tokensText_append write) separator blocks

end

/-! ## The pieces of a file -/

/-- Names with dots between them. -/
def dotted (place : NamePlace) (parts : List String) : List Token :=
  [Token.sign "."].intercalate (parts.map fun part => [.name place part])

section

variable (names : NameTable)

/-- The pieces of what is written for a class. -/
def NameTable.tokens (name : QualifiedName) : List Token :=
  if (names.short.lookup name).isSome then [.name .type name.shortName]
  else dotted .type name.segments

/-- The pieces of a template. -/
def Code.tokens (code : Code) : List Token :=
  code.flatMap fun
    | .literal text => [.sign text]
    | .reference name => names.tokens name

mutual

/-- The pieces of the value of an argument. -/
def valueTokens : AnnotationValue → List Token
  | .classLiteral name => names.tokens name ++ [.sign "::class"]
  | .string text => [.string text]
  | .int value => [.int value]
  | .bool value => [.sign (if value then "true" else "false")]
  | .enumEntry enumClass entry => names.tokens enumClass ++ [.sign ".", .name .entry entry]
  | .array items => [.sign "["] ++ itemsTokens items ++ [.sign "]"]
  termination_by structural value => value

/-- The pieces of the items of an array. -/
def itemsTokens : List AnnotationValue → List Token
  | [] => []
  | item :: rest => valueTokens item ++ furtherTokens rest
  termination_by structural items => items

/-- The pieces of the items of an array after the first one. -/
def furtherTokens : List AnnotationValue → List Token
  | [] => []
  | item :: rest => [.sign ", "] ++ valueTokens item ++ furtherTokens rest
  termination_by structural items => items

end

/-- The pieces of an argument. -/
def argumentTokens (argument : AnnotationArgument) : List Token :=
  (match argument.name with
  | some name => [.name .argument name, .sign " = "]
  | none => []) ++ valueTokens names argument.value

/-- The pieces of an annotation with arguments. -/
def AnnotationUse.tokens (use : AnnotationUse) (arguments : List AnnotationArgument) :
    List Token :=
  [.sign ("@" ++ match use.useSite with
    | some site => site.keyword ++ ":"
    | none => "")] ++ names.tokens use.name ++
    if arguments.isEmpty then []
    else [.sign "("] ++ [Token.sign ", "].intercalate (arguments.map (argumentTokens names)) ++
      [.sign ")"]

variable (arguments : AnnotationUse → List AnnotationArgument)

/-- The pieces of a line, given the arguments of annotations. -/
def Line.tokens : Line → List Token
  | empty => []
  | header package => [.sign "package "] ++ dotted .package (packageSegments package)
  | imported name => [.sign "import "] ++ dotted .imported name.segments
  | ownUse use => use.tokens names (arguments use)
  | opening interface =>
    [.sign "public interface ", .name .interface interface.name, .sign interface.opening]
  | memberUse use => [.sign "  "] ++ use.tokens names (arguments use)
  | declaration (.inl property) =>
    [.sign "  public val "] ++ Code.tokens names (receiverCode property.receiver) ++
      [.name .member property.name, .sign ": "] ++ Code.tokens names property.type.code
  | declaration (.inr function) =>
    [.sign "  public fun "] ++ Code.tokens names (receiverCode function.receiver) ++
      [.name .member function.name, .sign "()"] ++ Code.tokens names (returnsCode function.returns)
  | closing => [.sign "\x7d"]

end

namespace SourceFile

variable (file : SourceFile) (arguments : AnnotationUse → List AnnotationArgument)

/-- The pieces of a file, given the arguments of its annotations. -/
def tokens : List Token :=
  file.layout.flatMap fun line => line.tokens file.nameTable arguments ++ [.sign "\n"]

/-- The annotations in a file have these arguments. -/
def HasArguments : Prop :=
  ∀ interface ∈ file.interfaces, ∀ use ∈ interface.annotationUses,
    use.members = (arguments use).map AnnotationUse.argumentCode

end SourceFile

/-! ## How names are written -/

/-- The places where names are written as they are. -/
def NamePlace.isBare : NamePlace → Bool
  | argument => true
  | entry => true
  | _ => false

/-- How names are written. -/
def NamePlace.write (place : NamePlace) (name : String) : String :=
  if place.isBare then name else escape name

theorem tokensText_dotted {place : NamePlace} (h : place.isBare = false) (parts : List String) :
    tokensText NamePlace.write (dotted place parts) = ".".intercalate (parts.map escape) := by
  have hdot : tokensText NamePlace.write [.sign "."] = "." := rfl
  rw [dotted, tokensText_intercalate, List.map_map, hdot]
  refine congrArg _ (List.map_congr_left fun part _ => ?_)
  simp [Token.text, NamePlace.write, h]

/-- Classes that are written short are escaped. -/
def NameTable.EscapesShort (names : NameTable) : Prop :=
  ∀ n short, names.short.lookup n = some short → short = escape n.shortName

theorem NameTable.escapesShort_ofNames (package : String) (known : List QualifiedName) :
    (ofNames package known).EscapesShort := by
  intro n short h
  rw [ofNames, lookup_map_escape] at h
  split at h
  · exact (Option.some.inj h).symm
  · cases h

section

variable {names : NameTable}

theorem tokensText_class (hnames : names.EscapesShort) (n : QualifiedName) :
    tokensText NamePlace.write (names.tokens n) = names.text n := by
  rw [NameTable.tokens, NameTable.text]
  cases hlookup : names.short.lookup n with
  | none => exact tokensText_dotted rfl _
  | some short =>
    rw [hnames n short hlookup]
    simp [Token.text, NamePlace.write, NamePlace.isBare]

theorem tokensText_code (hnames : names.EscapesShort) (code : Code) :
    tokensText NamePlace.write (code.tokens names) = code.render names := by
  rw [Code.tokens, tokensText_flatMap, Code.render]
  congr 1
  refine List.map_congr_left fun part _ => ?_
  cases part with
  | literal text => simp [CodePart.render, Token.text]
  | reference name => exact tokensText_class hnames name

mutual

theorem tokensText_value (hnames : names.EscapesShort) : ∀ value : AnnotationValue,
    tokensText NamePlace.write (valueTokens names value) = (Code.ofValue value).render names
  | .classLiteral name => by
    rw [valueTokens, tokensText_append, tokensText_class hnames, Code.ofValue, Code.classLiteral]
    simp [Code.render, CodePart.render, Token.text]
  | .string text => by simp [valueTokens, Code.ofValue, Token.text]
  | .int value => by simp [valueTokens, Code.ofValue, Token.text]
  | .bool value => by simp [valueTokens, Code.ofValue, Token.text]
  | .enumEntry enumClass entry => by
    rw [valueTokens, tokensText_append, tokensText_class hnames, Code.ofValue]
    simp [Code.render, CodePart.render, Token.text, NamePlace.write, NamePlace.isBare]
  | .array items => by
    rw [valueTokens, tokensText_append, tokensText_append, tokensText_items hnames items,
      Code.ofValue, Code.render_append, Code.render_append]
    simp [Token.text]
  termination_by structural value => value

theorem tokensText_items (hnames : names.EscapesShort) : ∀ items : List AnnotationValue,
    tokensText NamePlace.write (itemsTokens names items) = (Code.ofItems items).render names
  | [] => by rw [itemsTokens, Code.ofItems]; rfl
  | item :: rest => by
    rw [itemsTokens, Code.ofItems, tokensText_append, Code.render_append,
      tokensText_value hnames item, tokensText_further hnames rest]
  termination_by structural items => items

theorem tokensText_further (hnames : names.EscapesShort) : ∀ items : List AnnotationValue,
    tokensText NamePlace.write (furtherTokens names items) = (Code.ofFurther items).render names
  | [] => by rw [furtherTokens, Code.ofFurther]; rfl
  | item :: rest => by
    rw [furtherTokens, Code.ofFurther, tokensText_append, tokensText_append, Code.render_append,
      Code.render_append, tokensText_value hnames item, tokensText_further hnames rest,
      Code.render_literal]
    rfl
  termination_by structural items => items

end

theorem tokensText_argument (hnames : names.EscapesShort) (argument : AnnotationArgument) :
    tokensText NamePlace.write (argumentTokens names argument) =
      (AnnotationUse.argumentCode argument).render names := by
  obtain ⟨name, value⟩ := argument
  rw [argumentTokens, tokensText_append, tokensText_value hnames]
  cases name with
  | none => exact String.empty_append
  | some name =>
    rw [AnnotationUse.argumentCode, Code.render_append, Code.render_literal]
    simp [Token.text, NamePlace.write, NamePlace.isBare]

theorem tokensText_use (hnames : names.EscapesShort) {use : AnnotationUse}
    {arguments : List AnnotationArgument}
    (h : use.members = arguments.map AnnotationUse.argumentCode) :
    tokensText NamePlace.write (use.tokens names arguments) = use.render names := by
  have hmembers : (arguments.map (argumentTokens names)).map (tokensText NamePlace.write) =
      use.members.map (Code.render names) := by
    rw [h, List.map_map, List.map_map]
    exact List.map_congr_left fun argument _ => tokensText_argument hnames argument
  have hempty : use.members.isEmpty = arguments.isEmpty := by rw [h, List.isEmpty_map]
  rw [AnnotationUse.tokens, tokensText_append, tokensText_append, tokensText_class hnames,
    tokensText_sign, AnnotationUse.render, hempty]
  refine congrArg _ ?_
  split
  · rfl
  · rw [tokensText_append, tokensText_append, tokensText_intercalate, hmembers, tokensText_sign,
      tokensText_sign, tokensText_sign]

theorem tokensText_line (hnames : names.EscapesShort)
    {arguments : AnnotationUse → List AnnotationArgument} {line : Line}
    (h : ∀ use ∈ line.uses, use.members = (arguments use).map AnnotationUse.argumentCode) :
    tokensText NamePlace.write (line.tokens names arguments) = line.text names := by
  cases line with
  | empty => rfl
  | header package =>
    rw [Line.tokens, tokensText_append, tokensText_dotted rfl, tokensText_sign]
    rfl
  | imported name =>
    rw [Line.tokens, tokensText_append, tokensText_dotted rfl, tokensText_sign]
    rfl
  | ownUse use => exact tokensText_use hnames (h use List.mem_cons_self)
  | opening interface =>
    rw [Line.tokens, tokensText_cons, tokensText_cons, tokensText_sign]
    rfl
  | memberUse use =>
    rw [Line.tokens, tokensText_append, tokensText_use hnames (h use List.mem_cons_self),
      tokensText_sign]
    rfl
  | declaration member =>
    cases member with
    | inl property =>
      rw [Line.tokens, tokensText_append, tokensText_append, tokensText_append,
        tokensText_code hnames, tokensText_code hnames, render_receiverCode,
        property.type.render_code, Line.text_property]
      simp [Token.text, NamePlace.write, NamePlace.isBare, String.append_assoc]
    | inr function =>
      rw [Line.tokens, tokensText_append, tokensText_append, tokensText_append,
        tokensText_code hnames, tokensText_code hnames, render_receiverCode, Line.text_function]
      simp [Token.text, NamePlace.write, NamePlace.isBare, String.append_assoc]
  | closing => rfl

end

/-- **The text of a file consists of its pieces**, of which the names of arguments and of entries
are written as they are, and all other names are escaped. -/
theorem SourceFile.render_eq_tokensText {file : SourceFile}
    {arguments : AnnotationUse → List AnnotationArgument} (h : file.HasArguments arguments) :
    file.render = tokensText NamePlace.write (file.tokens arguments) := by
  rw [render_eq_joinLines, joinLines, textsOf, List.map_map, tokens, tokensText_flatMap]
  refine congrArg _ (List.map_congr_left fun line hline => ?_)
  rw [tokensText_append, tokensText_sign, tokensText_line]
  · rfl
  · exact NameTable.escapesShort_ofNames _ _
  · intro use huse
    have hmem : use ∈ file.interfaces.flatMap Interface.annotationUses :=
      file.flatMap_uses ▸ List.mem_flatMap.2 ⟨line, hline, huse⟩
    obtain ⟨interface, hinterface, huse⟩ := List.mem_flatMap.1 hmem
    exact h interface hinterface use huse

/-! ## Names that are written as they are -/

/-- The name that a piece consists of, if it is written as it is. -/
def Token.bareName? : Token → Option String
  | .name place part => if place.isBare then some part else none
  | _ => none

theorem Token.bareName?_eq_some {token : Token} {part : String} :
    token.bareName? = some part ↔ ∃ place, place.isBare ∧ token = .name place part := by
  cases token with
  | name place other =>
    rw [bareName?, Option.ite_none_right_eq_some, Option.some_inj]
    constructor
    · rintro ⟨hbare, rfl⟩
      exact ⟨place, hbare, rfl⟩
    · rintro ⟨_, hbare, heq⟩
      cases heq
      exact ⟨hbare, rfl⟩
  | _ => simp [bareName?]

/-- The names that are written as they are. -/
def bareNames (tokens : List Token) : List String := tokens.filterMap Token.bareName?

@[simp] theorem bareNames_append (as bs : List Token) :
    bareNames (as ++ bs) = bareNames as ++ bareNames bs := List.filterMap_append

@[simp] theorem bareNames_sign (text : String) (tokens : List Token) :
    bareNames (.sign text :: tokens) = bareNames tokens := rfl

theorem bareNames_flatMap {α : Type} (items : List α) (tokens : α → List Token) :
    bareNames (items.flatMap tokens) = items.flatMap fun item => bareNames (tokens item) :=
  List.filterMap_flatMap

theorem bareNames_dotted {place : NamePlace} (h : place.isBare = false) (parts : List String) :
    bareNames (dotted place parts) = [] := by
  have hname : ∀ part, bareNames [.name place part] = [] := by simp [bareNames, Token.bareName?, h]
  rw [dotted, bareNames, (Piecewise.filterMap Token.bareName?).intercalate_of_nil rfl,
    List.flatMap_map]
  exact List.flatMap_eq_nil_iff.2 fun part _ => hname part

section

variable (names : NameTable)

@[simp] theorem bareNames_class (n : QualifiedName) : bareNames (names.tokens n) = [] := by
  rw [NameTable.tokens]
  split
  · rfl
  · exact bareNames_dotted rfl _

@[simp] theorem bareNames_code (code : Code) : bareNames (code.tokens names) = [] := by
  rw [Code.tokens, bareNames_flatMap]
  refine List.flatMap_eq_nil_iff.2 fun part _ => ?_
  cases part with
  | literal text => rfl
  | reference name => exact bareNames_class names name

mutual

theorem bareNames_value : ∀ value : AnnotationValue,
    bareNames (valueTokens names value) = value.entries
  | .classLiteral name => by
    rw [valueTokens, bareNames_append, bareNames_class, AnnotationValue.entries]
    rfl
  | .string text => by rw [valueTokens, AnnotationValue.entries]; rfl
  | .int value => by rw [valueTokens, AnnotationValue.entries]; rfl
  | .bool value => by rw [valueTokens, AnnotationValue.entries]; rfl
  | .enumEntry enumClass entry => by
    rw [valueTokens, bareNames_append, bareNames_class, AnnotationValue.entries]
    rfl
  | .array items => by
    rw [valueTokens, bareNames_append, bareNames_append, bareNames_items items,
      AnnotationValue.entries]
    exact List.append_nil _
  termination_by structural value => value

theorem bareNames_items : ∀ items : List AnnotationValue,
    bareNames (itemsTokens names items) = AnnotationValue.listEntries items
  | [] => by rw [itemsTokens, AnnotationValue.listEntries]; rfl
  | item :: rest => by
    rw [itemsTokens, bareNames_append, bareNames_value item, bareNames_further rest,
      AnnotationValue.listEntries]
  termination_by structural items => items

theorem bareNames_further : ∀ items : List AnnotationValue,
    bareNames (furtherTokens names items) = AnnotationValue.listEntries items
  | [] => by rw [furtherTokens, AnnotationValue.listEntries]; rfl
  | item :: rest => by
    rw [furtherTokens, bareNames_append, bareNames_append, bareNames_value item,
      bareNames_further rest, AnnotationValue.listEntries]
    rfl
  termination_by structural items => items

end

end

end Kotlin

/-- The names in an argument: that of its parameter, if it is given, and those of entries. -/
def AnnotationArgument.names (argument : AnnotationArgument) : List String :=
  argument.name.toList ++ argument.value.entries

namespace Kotlin

section

variable (names : NameTable)

theorem bareNames_argument (argument : AnnotationArgument) :
    bareNames (argumentTokens names argument) = argument.names := by
  obtain ⟨name, value⟩ := argument
  rw [argumentTokens, bareNames_append, bareNames_value, AnnotationArgument.names]
  cases name <;> rfl

theorem bareNames_use (use : AnnotationUse) (arguments : List AnnotationArgument) :
    bareNames (use.tokens names arguments) = arguments.flatMap AnnotationArgument.names := by
  have hitems : bareNames ([Token.sign ", "].intercalate (arguments.map (argumentTokens names))) =
      arguments.flatMap AnnotationArgument.names := by
    rw [bareNames, (Piecewise.filterMap Token.bareName?).intercalate_of_nil rfl, List.flatMap_map]
    exact List.flatMap_congr fun argument _ => bareNames_argument names argument
  rw [AnnotationUse.tokens, bareNames_append, bareNames_append, bareNames_class, bareNames_sign]
  cases arguments with
  | nil => rfl
  | cons argument arguments =>
    change bareNames [] ++ [] ++ bareNames ([.sign "("] ++ _ ++ [.sign ")"]) = _
    rw [bareNames_append, bareNames_append, hitems]
    exact List.append_nil _

theorem bareNames_line (arguments : AnnotationUse → List AnnotationArgument) (line : Line) :
    bareNames (line.tokens names arguments ++ [.sign "\n"]) =
      line.uses.flatMap fun use => (arguments use).flatMap AnnotationArgument.names := by
  have hend : bareNames [.sign "\n"] = [] := rfl
  rw [bareNames_append, hend, List.append_nil]
  cases line with
  | header package => exact bareNames_dotted rfl _
  | imported name => exact bareNames_dotted rfl _
  | ownUse use =>
    rw [Line.tokens, bareNames_use]
    exact (List.append_nil _).symm
  | memberUse use =>
    rw [Line.tokens, bareNames_append, bareNames_use]
    exact (List.append_nil _).symm
  | declaration member =>
    cases member with
    | inl property =>
      rw [Line.tokens, bareNames_append, bareNames_append, bareNames_append, bareNames_code,
        bareNames_code]
      rfl
    | inr function =>
      rw [Line.tokens, bareNames_append, bareNames_append, bareNames_append, bareNames_code,
        bareNames_code]
      rfl
  | _ => rfl

end

namespace SourceFile

variable (file : SourceFile) (arguments : AnnotationUse → List AnnotationArgument)

/-- The names in the arguments of a file's annotations. -/
def argumentNames : List String :=
  file.interfaces.flatMap fun interface => interface.annotationUses.flatMap fun use =>
    (arguments use).flatMap AnnotationArgument.names

/-- These are the names that are written as they are. -/
theorem bareNames_tokens : bareNames (file.tokens arguments) = file.argumentNames arguments := by
  rw [tokens, bareNames_flatMap, argumentNames]
  calc file.layout.flatMap (fun line =>
        bareNames (line.tokens file.nameTable arguments ++ [.sign "\n"]))
    _ = file.layout.flatMap fun line => line.uses.flatMap fun use =>
          (arguments use).flatMap AnnotationArgument.names :=
        List.flatMap_congr fun line _ => bareNames_line _ _ line
    _ = (file.interfaces.flatMap Interface.annotationUses).flatMap fun use =>
          (arguments use).flatMap AnnotationArgument.names := by
        rw [← file.flatMap_uses, List.flatMap_assoc]
    _ = _ := List.flatMap_assoc

end SourceFile

/-! ## Texts in which all names are escaped -/

theorem length_le_escape (name : String) : name.length ≤ (escape name).length := by
  rw [escape]
  split
  · simp only [String.length_append]
    omega
  · exact le_rfl

/-- A keyword is escaped by something longer. -/
theorem length_lt_escape {name : String} (h : name ∈ hardKeywords) :
    name.length < (escape name).length := by
  have hquotes : ("`" : String).length = 1 := by decide
  rw [escape, if_pos (by simpa using h), String.length_append, String.length_append, hquotes]
  omega

theorem escape_of_not_mem {name : String} (h : name ∉ hardKeywords) : escape name = name := by
  rw [escape, if_neg (by simpa using h)]

theorem NamePlace.length_write_le (place : NamePlace) (name : String) :
    (place.write name).length ≤ (escape name).length := by
  rw [write]
  split
  · exact length_le_escape name
  · exact le_rfl

/-- **A text is the one in which all names are escaped** exactly if none of the names that are
written as they are is a keyword. -/
theorem tokensText_write_eq_iff (tokens : List Token) :
    tokensText NamePlace.write tokens = tokensText (fun _ => escape) tokens ↔
      ∀ name ∈ bareNames tokens, name ∉ hardKeywords := by
  constructor
  · intro heq name hname hkeyword
    obtain ⟨token, htoken, hbare⟩ := List.mem_filterMap.1 hname
    -- One piece is shorter, and no piece is longer.
    have hle : ∀ token ∈ tokens, (token.text NamePlace.write).length ≤
        (token.text fun _ => escape).length := by
      intro token _
      cases token with
      | name place part => exact place.length_write_le part
      | _ => exact le_rfl
    have hlt : (token.text NamePlace.write).length < (token.text fun _ => escape).length := by
      obtain ⟨place, hplace, rfl⟩ := Token.bareName?_eq_some.1 hbare
      have hwrite : place.write name = name := if_pos hplace
      rw [Token.text, Token.text, hwrite]
      exact length_lt_escape hkeyword
    have hsum := List.sum_lt_sum _ _ hle ⟨token, htoken, hlt⟩
    have hlength := congrArg String.length heq
    simp only [tokensText, String.length_join, List.map_map] at hlength
    exact absurd hlength hsum.ne
  · intro h
    refine congrArg String.join (List.map_congr_left fun token htoken => ?_)
    cases token with
    | name place part =>
      rw [Token.text, Token.text, NamePlace.write]
      split
      · next hplace =>
        have hpart : part ∈ bareNames tokens :=
          List.mem_filterMap.2 ⟨_, htoken, Token.bareName?_eq_some.2 ⟨place, hplace, rfl⟩⟩
        rw [escape_of_not_mem (h part hpart)]
      · rfl
    | _ => rfl

end Kotlin

/-! ## Files that are made of declarations -/

open Kotlin

/-- Files of bindings, files of provisions, and files of classes whose members are injected. -/
inductive IsSynthesized : SourceFile → Prop
  | bindings (owner : ClassDeclaration) (bindings : List Binding) (scopes : List QualifiedName)
    (suffixes : Suffixes) : IsSynthesized (bindingsFile owner bindings scopes suffixes)
  | provisions (owner : ClassDeclaration) (groups : ScopeGroups Provision) (suffixes : Suffixes) :
    IsSynthesized (provisionsFile owner groups suffixes)
  | autoWire (target : ClassDeclaration) (scope : QualifiedName) (suffixes : Suffixes) :
    IsSynthesized (autoWireFile target scope suffixes)

/-- The annotation is given arguments. -/
def Kotlin.AnnotationUse.IsGivenArguments (use : AnnotationUse) : Prop :=
  ∃ arguments : List AnnotationArgument, use.members = arguments.map AnnotationUse.argumentCode

theorem isGivenArguments_ofName (name : QualifiedName) :
    (AnnotationUse.ofName name).IsGivenArguments := ⟨[], rfl⟩

theorem isGivenArguments_onSite (name : QualifiedName) (site : UseSite) :
    ((AnnotationUse.ofName name).onSite site).IsGivenArguments := ⟨[], rfl⟩

theorem isGivenArguments_contributesTo (scope : QualifiedName) :
    (contributesTo scope).IsGivenArguments := ⟨[⟨none, .classLiteral scope⟩], rfl⟩

theorem isGivenArguments_qualifiersOn (site : UseSite) (qualifiers : List Annotation) :
    ∀ use ∈ qualifiersOn site qualifiers, use.IsGivenArguments := by
  refine List.forall_mem_map.2 fun qualifier _ => ⟨qualifier.arguments, rfl⟩

theorem isGivenArguments_bindingProperty (binding : Binding) :
    ∀ use ∈ binding.property.annotations, use.IsGivenArguments := by
  rw [Binding.property, List.forall_mem_cons, List.forall_mem_append]
  exact ⟨isGivenArguments_onSite _ _, isGivenArguments_qualifiersOn _ _,
    isGivenArguments_qualifiersOn _ _⟩

theorem isGivenArguments_injectorProperty (target : QualifiedName) :
    ∀ use ∈ (injectorProperty target).annotations, use.IsGivenArguments := by
  rw [injectorProperty, List.forall_mem_cons, List.forall_mem_cons, List.forall_mem_singleton]
  exact ⟨isGivenArguments_onSite _ _, isGivenArguments_onSite _ _,
    ⟨[⟨none, .classLiteral target⟩], rfl⟩⟩

namespace IsSynthesized

variable {file : SourceFile}

/-- All annotations in such files are given arguments. -/
theorem isGivenArguments (h : IsSynthesized file) : ∀ interface ∈ file.interfaces,
    ∀ use ∈ interface.annotationUses, use.IsGivenArguments := by
  cases h with
  | bindings owner bindings scopes suffixes =>
    refine List.forall_mem_singleton.2 ?_
    rw [Interface.annotationUses, List.forall_mem_append, List.forall_mem_append]
    refine ⟨⟨List.forall_mem_cons.2 ⟨isGivenArguments_ofName _, List.forall_mem_map.2 fun scope _ =>
      isGivenArguments_contributesTo scope⟩, ?_⟩, List.forall_mem_nil _⟩
    intro use huse
    obtain ⟨property, hproperty, huse⟩ := List.mem_flatMap.1 huse
    obtain ⟨binding, -, rfl⟩ := List.mem_map.1 hproperty
    exact isGivenArguments_bindingProperty binding use huse
  | provisions owner groups suffixes =>
    rw [provisionsFile, ClassDeclaration.provisionsInterfaces_eq]
    refine List.forall_mem_map.2 fun group _ => ?_
    rw [Interface.annotationUses, List.forall_mem_append, List.forall_mem_append]
    refine ⟨⟨List.forall_mem_singleton.2 (isGivenArguments_contributesTo _), ?_⟩,
      List.forall_mem_nil _⟩
    intro use huse
    obtain ⟨property, hproperty, huse⟩ := List.mem_flatMap.1 huse
    obtain ⟨provision, -, rfl⟩ := List.mem_map.1 hproperty
    exact isGivenArguments_qualifiersOn _ _ use huse
  | autoWire target scope suffixes =>
    refine List.forall_mem_cons.2 ⟨?_, List.forall_mem_singleton.2 ?_⟩
    · rw [Interface.annotationUses, List.forall_mem_append, List.forall_mem_append,
        List.flatMap_singleton]
      exact ⟨⟨List.forall_mem_cons.2 ⟨isGivenArguments_ofName _,
        List.forall_mem_singleton.2 (isGivenArguments_contributesTo scope)⟩,
          isGivenArguments_injectorProperty target.name⟩, List.forall_mem_nil _⟩
    · exact List.forall_mem_singleton.2 (isGivenArguments_contributesTo scope)

theorem exists_hasArguments (h : IsSynthesized file) :
    ∃ arguments, file.HasArguments arguments := by
  have hchoice : ∀ use : AnnotationUse, ∃ arguments : List AnnotationArgument,
      use.IsGivenArguments → use.members = arguments.map AnnotationUse.argumentCode := by
    intro use
    by_cases hgiven : use.IsGivenArguments
    · obtain ⟨arguments, hmembers⟩ := hgiven
      exact ⟨arguments, fun _ => hmembers⟩
    · exact ⟨[], fun h => absurd h hgiven⟩
  choose arguments harguments using hchoice
  exact ⟨arguments, fun interface hinterface use huse =>
    harguments use (h.isGivenArguments interface hinterface use huse)⟩

/-- **Names of arguments and of entries are not escaped, and all other names are.** So all names are
escaped in a file if, and only if, no keyword is the name of an argument or of an entry. -/
theorem render_eq_escaped_iff (h : IsSynthesized file) :
    (∃ arguments, file.HasArguments arguments) ∧
      ∀ arguments, file.HasArguments arguments →
        file.render = tokensText NamePlace.write (file.tokens arguments) ∧
        (file.render = tokensText (fun _ => escape) (file.tokens arguments) ↔
          ∀ name ∈ file.argumentNames arguments, name ∉ hardKeywords) := by
  refine ⟨h.exists_hasArguments, fun arguments harguments => ?_⟩
  have hrender := SourceFile.render_eq_tokensText harguments
  refine ⟨hrender, ?_⟩
  rw [hrender, tokensText_write_eq_iff, file.bareNames_tokens]

end IsSynthesized

/-- The file of a provision that has a qualifier with an argument. -/
def keyedFile (name entry : String) : SourceFile :=
  provisionsFile (.ofName "p" "Net")
    ⟨[(⟨"p.Scope"⟩, [{
      name := "object"
      type := .ofClass ⟨"p.Client"⟩
      qualifiers := [⟨⟨"p.Keyed"⟩, [⟨some name, .enumEntry ⟨"p.Mode"⟩ entry⟩], []⟩]
      scope := some ⟨"p.Scope"⟩
      element := .ofClass ⟨"p.Net"⟩ }])]⟩ {}

/-- The arguments of its annotations. -/
def keyedArguments (name entry : String) (use : AnnotationUse) : List AnnotationArgument :=
  if use.name = WellKnown.contributesTo then [⟨none, .classLiteral ⟨"p.Scope"⟩⟩]
  else [⟨some name, .enumEntry ⟨"p.Mode"⟩ entry⟩]

theorem isSynthesized_keyedFile (name entry : String) : IsSynthesized (keyedFile name entry) :=
  .provisions _ _ _

theorem hasArguments_keyedFile (name entry : String) :
    (keyedFile name entry).HasArguments (keyedArguments name entry) := by
  refine List.forall_mem_singleton.2 (List.forall_mem_cons.2 ⟨?_, List.forall_mem_singleton.2 ?_⟩)
  · rfl
  · rfl

/-- No keyword is the name of the argument or of the entry, and that of the property is escaped. -/
theorem render_eq_escaped_keyed :
    IsSynthesized (keyedFile "kind" "FAST") ∧
      (keyedFile "kind" "FAST").HasArguments (keyedArguments "kind" "FAST") ∧
      .name .member "object" ∈ (keyedFile "kind" "FAST").tokens (keyedArguments "kind" "FAST") ∧
      (keyedFile "kind" "FAST").render = tokensText (fun _ => escape)
        ((keyedFile "kind" "FAST").tokens (keyedArguments "kind" "FAST")) :=
  ⟨isSynthesized_keyedFile _ _, hasArguments_keyedFile _ _, by decide,
    ((isSynthesized_keyedFile "kind" "FAST").render_eq_escaped_iff.2 _
      (hasArguments_keyedFile _ _)).2.2 (by decide)⟩

theorem isNamed_keyedFile : (keyedFile "when" "in").IsNamed where
  isValid := by decide
  inPackage := by decide
  interfaces := by
    refine List.forall_mem_singleton.2 ⟨by decide, by decide, List.forall_mem_nil _,
      List.forall_mem_cons.2 ⟨⟨[⟨none, .classLiteral ⟨"p.Scope"⟩⟩], rfl, ?_⟩,
        List.forall_mem_singleton.2 ⟨[⟨some "when", .enumEntry ⟨"p.Mode"⟩ "in"⟩], rfl, ?_⟩⟩⟩
    · exact List.forall_mem_singleton.2 ⟨by simp, .classLiteral _⟩
    · exact List.forall_mem_singleton.2 ⟨by decide, .enumEntry _ _ (by decide)⟩

/-- **A keyword may be written bare**: the file of a provision with `@Keyed(when = Mode.in)` has no
back-ticks there. -/
theorem keyword_written_bare :
    IsSynthesized (keyedFile "when" "in") ∧ (keyedFile "when" "in").IsNamed ∧
      (keyedFile "when" "in").HasArguments (keyedArguments "when" "in") ∧
      .name .argument "when" ∈ (keyedFile "when" "in").tokens (keyedArguments "when" "in") ∧
      "when" ∈ hardKeywords ∧
      (keyedFile "when" "in").render ≠ tokensText (fun _ => escape)
        ((keyedFile "when" "in").tokens (keyedArguments "when" "in")) ∧
      (keyedFile "when" "in").render =
        "package p\n\nimport com.squareup.anvil.annotations.ContributesTo\n\n" ++
        "@ContributesTo(Scope::class)\npublic interface NetProvisionsCodeGen0Component \x7b\n" ++
        "  @get:Keyed(when = Mode.in)\n  public val `object`: Client\n\x7d\n" := by
  refine ⟨isSynthesized_keyedFile _ _, isNamed_keyedFile,
    hasArguments_keyedFile _ _, by decide, by decide, ?_, by decide +kernel⟩
  rw [SourceFile.render_eq_tokensText (hasArguments_keyedFile _ _), ne_eq, tokensText_write_eq_iff]
  decide

end Wiring
