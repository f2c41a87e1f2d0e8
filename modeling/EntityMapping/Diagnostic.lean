/-
Module: EntityMapping.Diagnostic
Purpose: What of a schema could not be interpreted. None of it stops the interpretation.
Main exports: Diagnostic.Kind, Location, Diagnostic, Diagnostic.select
-/

namespace EntityMapping

/-- The sorts of diagnostic. -/
inductive Diagnostic.Kind where
  /-- A declaration that is neither a model nor an enumeration. -/
  | unrecognizedDeclaration
  /-- An attribute of a model that declares no index. -/
  | unrecognizedBlockAttribute
  /-- An attribute that should declare an index but has no list of columns. -/
  | malformedIndex
  /-- An argument of a relation that means nothing, or columns without a partner. -/
  | unknownRelationArgument
  /-- An argument of a storage type that is not a length. -/
  | invalidLength
  /-- Several fields of the related model lead back. -/
  | ambiguousInverse
  /-- No field of the related model leads back. -/
  | missingInverse
deriving DecidableEq, Repr

/-- The name of a sort of diagnostic. -/
def Diagnostic.Kind.name : Diagnostic.Kind → String
  | .unrecognizedDeclaration => "UnrecognizedDeclaration"
  | .unrecognizedBlockAttribute => "UnrecognizedBlockAttribute"
  | .malformedIndex => "MalformedIndex"
  | .unknownRelationArgument => "UnknownRelationArgument"
  | .invalidLength => "InvalidLength"
  | .ambiguousInverse => "AmbiguousInverse"
  | .missingInverse => "MissingInverse"

/-- The place that a diagnostic is about. -/
inductive Location where
  | declaration (position : Nat)
  | entity (name : String)
  | field (owner : String) (name : String)
deriving DecidableEq, Repr

/-- The place in words. -/
def Location.display : Location → String
  | .declaration position => "declaration #" ++ Nat.repr position
  | .entity name => name
  | .field owner name => owner ++ "." ++ name

/-- A diagnostic. -/
structure Diagnostic where
  kind : Diagnostic.Kind
  location : Location
  message : String
deriving DecidableEq, Repr

namespace Diagnostic

/-- The diagnostic in words. -/
def display (diagnostic : Diagnostic) : String :=
  diagnostic.location.display ++ ": " ++ diagnostic.message

/-- The diagnostics of one sort, in order. -/
def select (kind : Diagnostic.Kind) (diagnostics : List Diagnostic) : List Diagnostic :=
  diagnostics.filter (·.kind == kind)

end Diagnostic

end EntityMapping
