/-!
# `Rejection` — why a construction is refused

Every rule about types, members, ends, names and counts is checked once, when a value is built. A build
that breaks a rule yields a `Rejection`: the **cause**, carrying the names and type texts that the message
shows. Wording, category, blamed argument and diagnostic code are functions of the cause, so no caller
ever composes a message.

## Contents
* `Argument`, `Requirement` — the inputs that can be blamed, and the fixed phrases for what they must be.
* `Rejection` with `message`, `category`, `argument`, `code`, `help`.
* `require` — the one way a rule is enforced, with the lemmas by which a successful build is taken apart.
-/

namespace EntityQuery

/-! ## The vocabulary of blame -/

/-- An input of a construction that a rejection can blame. -/
inductive Argument where
  | argument | arguments | elements | expression | fromEnd | function | instanceValue | keys | left
  | member | name | predicate | property | reference | resultType | right | scale | setClauses
  | source | target | targetEnd | targetEntityReference | toEnd | underlying | value | formals
deriving DecidableEq

/-- The name of the input, as messages show it. -/
def Argument.text : Argument → String
  | .argument => "argument"
  | .arguments => "arguments"
  | .elements => "elements"
  | .expression => "expression"
  | .fromEnd => "from_end"
  | .function => "function"
  | .instanceValue => "instance"
  | .keys => "keys"
  | .left => "left"
  | .member => "member"
  | .name => "name"
  | .predicate => "predicate"
  | .property => "property"
  | .reference => "reference"
  | .resultType => "result_type"
  | .right => "right"
  | .scale => "scale"
  | .setClauses => "set_clauses"
  | .source => "source"
  | .target => "target"
  | .targetEnd => "target_end"
  | .targetEntityReference => "target_entity_reference"
  | .toEnd => "to_end"
  | .underlying => "underlying"
  | .value => "value"
  | .formals => "variables"

/-- What an input of the wrong kind should have been. -/
inductive Requirement where
  | booleanType | collectionType | entityType | functionWithReturnType | integralPrimitive
  | nonCollectionType | referenceType | scalarType | structuralOrCollectionType | entitySetScan
deriving DecidableEq

/-- The phrase for a requirement, as messages show it. -/
def Requirement.text : Requirement → String
  | .booleanType => "a Boolean type"
  | .collectionType => "a collection type"
  | .entityType => "an entity type"
  | .functionWithReturnType => "a function with a declared return type"
  | .integralPrimitive => "an integral primitive type"
  | .nonCollectionType => "a non-collection type"
  | .referenceType => "a reference type"
  | .scalarType => "a primitive or enum type"
  | .structuralOrCollectionType => "a structural or collection type"
  | .entitySetScan => "a binding over a scan of an entity set"

/-! ## Causes -/

/-- The broad class of a rejection: a malformed input, an incompatible type, or a wrong count. -/
inductive Category where
  | argumentValidity | typeMismatch | shapeMismatch
deriving DecidableEq

/-- **Why a construction was refused.** Names and type texts are those of the operands at fault. -/
inductive Rejection where
  | emptyArgument (blamed : Argument)
  | invalidParameterName (name : String)
  | invalidMemberKind (blamed : Argument) (member : String)
  | scaleOutOfRange (blamed : Argument) (scale max : Nat)
  | unknownMember (typeName member : String)
  | endNotInRelationship (blamed : Argument) (endName relationship : String)
  | duplicateVariable (name : String)
  | targetEndFromDifferentRelationship (blamed : Argument) (sourceRelationship targetRelationship : String)
  | targetEndSameAsSourceEnd (blamed : Argument) (endName : String)
  | targetEndMustBeAtMostOne (blamed : Argument) (endName multiplicity : String)
  | targetEntityNotRef (blamed : Argument) (found : String)
  | targetEntityNotCompatible (blamed : Argument) (expected found : String)
  | valueTypeMismatch (blamed : Argument) (expected found : String)
  | resultTypeMismatch (blamed : Argument) (expected found : String)
  | unexpectedType (blamed : Argument) (expected : Requirement) (found : String)
  | incompatibleTypes (blamed : Argument) (left right : String)
  | parameterTypeConflict (name first second : String)
  | argumentCountMismatch (blamed : Argument) (expected found : Nat)
  | emptyElements (typeName : String)
deriving DecidableEq

namespace Rejection

/-- The input that the rejection blames. -/
def argument : Rejection → Argument
  | emptyArgument a => a
  | invalidParameterName _ => .name
  | invalidMemberKind a _ => a
  | scaleOutOfRange a _ _ => a
  | unknownMember _ _ => .member
  | endNotInRelationship a _ _ => a
  | duplicateVariable _ => .formals
  | targetEndFromDifferentRelationship a _ _ => a
  | targetEndSameAsSourceEnd a _ => a
  | targetEndMustBeAtMostOne a _ _ => a
  | targetEntityNotRef a _ => a
  | targetEntityNotCompatible a _ _ => a
  | valueTypeMismatch a _ _ => a
  | resultTypeMismatch a _ _ => a
  | unexpectedType a _ _ => a
  | incompatibleTypes a _ _ => a
  | parameterTypeConflict _ _ _ => .name
  | argumentCountMismatch a _ _ => a
  | emptyElements _ => .elements

/-- The class of the rejection. -/
def category : Rejection → Category
  | emptyArgument _ | invalidParameterName _ | invalidMemberKind _ _ | scaleOutOfRange _ _ _
  | unknownMember _ _ | endNotInRelationship _ _ _ | duplicateVariable _
  | targetEndFromDifferentRelationship _ _ _ | targetEndSameAsSourceEnd _ _ => .argumentValidity
  | targetEntityNotRef _ _ | targetEntityNotCompatible _ _ _ | valueTypeMismatch _ _ _
  | resultTypeMismatch _ _ _ | unexpectedType _ _ _ | incompatibleTypes _ _ _
  | parameterTypeConflict _ _ _ => .typeMismatch
  | targetEndMustBeAtMostOne _ _ _ | argumentCountMismatch _ _ _ | emptyElements _ => .shapeMismatch

/-- The sentence shown to the caller. -/
def message : Rejection → String
  | emptyArgument a => "argument '" ++ a.text ++ "' must not be empty"
  | invalidParameterName n => "'" ++ n ++ "' is not a valid parameter name"
  | invalidMemberKind a m =>
      "member '" ++ m ++ "' passed as '" ++ a.text
        ++ "' is not a property, navigation property or relationship end"
  | scaleOutOfRange a s m =>
      "scale " ++ toString s ++ " passed as '" ++ a.text
        ++ "' exceeds the maximum decimal scale of " ++ toString m
  | unknownMember t m => "type '" ++ t ++ "' has no member named '" ++ m ++ "'"
  | endNotInRelationship a e r =>
      "relationship end '" ++ e ++ "' passed as '" ++ a.text
        ++ "' is not declared by relationship '" ++ r ++ "'"
  | duplicateVariable n => "lambda variable '" ++ n ++ "' is declared more than once"
  -- the names of the two relationships are kept for the caller; the sentence does without them
  | targetEndFromDifferentRelationship _ _ _ =>
      "the target end must be declared by the same relationship as the source end"
  | targetEndSameAsSourceEnd _ e => "the target end '" ++ e ++ "' must differ from the source end"
  | targetEndMustBeAtMostOne _ e m =>
      "the target end '" ++ e ++ "' must have a multiplicity of one or zero-or-one, found " ++ m
  | targetEntityNotRef _ f =>
      "the target entity reference must have a reference result type, found '" ++ f ++ "'"
  | targetEntityNotCompatible _ x f =>
      "the target entity type '" ++ f ++ "' is not compatible with the end type '" ++ x ++ "'"
  | valueTypeMismatch a x f =>
      "value for '" ++ a.text ++ "' does not match type '" ++ x ++ "': found " ++ f
  | resultTypeMismatch a x f =>
      "result type for '" ++ a.text ++ "' must be '" ++ x ++ "', found '" ++ f ++ "'"
  | unexpectedType a x f => "'" ++ a.text ++ "' requires " ++ x.text ++ ", found '" ++ f ++ "'"
  | incompatibleTypes a l r =>
      "types '" ++ l ++ "' and '" ++ r ++ "' are not compatible for '" ++ a.text ++ "'"
  | parameterTypeConflict n f s =>
      "parameter '" ++ n ++ "' is referenced with conflicting types '" ++ f ++ "' and '" ++ s ++ "'"
  | argumentCountMismatch a x f =>
      "'" ++ a.text ++ "' expects " ++ toString x ++ " argument(s), found " ++ toString f
  | emptyElements t =>
      "a new instance of non-collection type '" ++ t ++ "' needs at least one element"

/-- The diagnostic code: the tool's name, the group of the rule, the rule. -/
def code : Rejection → String
  | emptyArgument _ => "command_tree::argument::empty"
  | invalidParameterName _ => "command_tree::argument::invalid_parameter_name"
  | invalidMemberKind _ _ => "command_tree::argument::invalid_member_kind"
  | scaleOutOfRange _ _ _ => "command_tree::argument::scale_out_of_range"
  | unknownMember _ _ => "command_tree::argument::unknown_member"
  | endNotInRelationship _ _ _ => "command_tree::argument::end_not_in_relationship"
  | duplicateVariable _ => "command_tree::argument::duplicate_variable"
  | targetEndFromDifferentRelationship _ _ _ =>
      "command_tree::related_entity::target_end_from_different_relationship"
  | targetEndSameAsSourceEnd _ _ => "command_tree::related_entity::target_end_same_as_source_end"
  | targetEndMustBeAtMostOne _ _ _ => "command_tree::related_entity::target_end_must_be_at_most_one"
  | targetEntityNotRef _ _ => "command_tree::related_entity::target_entity_not_ref"
  | targetEntityNotCompatible _ _ _ => "command_tree::related_entity::target_entity_not_compatible"
  | valueTypeMismatch _ _ _ => "command_tree::types::value_mismatch"
  | resultTypeMismatch _ _ _ => "command_tree::types::result_type_mismatch"
  | unexpectedType _ _ _ => "command_tree::types::unexpected_type"
  | incompatibleTypes _ _ _ => "command_tree::types::incompatible"
  | parameterTypeConflict _ _ _ => "command_tree::types::parameter_type_conflict"
  | argumentCountMismatch _ _ _ => "command_tree::shape::argument_count"
  | emptyElements _ => "command_tree::shape::empty_elements"

/-- Advice for the three rules that have some. -/
def help : Rejection → Option String
  | invalidParameterName _ =>
      some "parameter names start with a letter and contain only letters, digits and '_'"
  | targetEndMustBeAtMostOne _ _ _ =>
      some "many-valued relationship ends cannot be wired up by a related entity reference"
  | emptyElements _ => some "only collection types may be constructed empty"
  | _ => none

end Rejection

/-! ## Enforcing a rule -/

/-- Enforces one rule: passes when `rule` holds, and rejects for `cause` when it does not. -/
def require (rule : Bool) (cause : Rejection) : Except Rejection Unit :=
  if rule then .ok () else .error cause

@[simp] theorem require_true (c : Rejection) : require true c = .ok () := rfl

@[simp] theorem require_false (c : Rejection) : require false c = .error c := rfl

theorem require_eq_ok_iff {b : Bool} {c : Rejection} : require b c = .ok () ↔ b = true := by
  cases b <;> simp

/-- **A build that starts with a rule succeeds exactly when the rule holds and the rest succeeds.** -/
theorem require_bind_eq_ok_iff {α : Type} {b : Bool} {c : Rejection} {f : Unit → Except Rejection α}
    {r : α} : (require b c >>= f) = .ok r ↔ b = true ∧ f () = .ok r := by
  cases b <;> simp [bind, Except.bind]

end EntityQuery
