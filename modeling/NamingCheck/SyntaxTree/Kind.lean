/-!
The node kinds and fields of the C++ grammar on which the lowering depends.
-/

namespace NamingCheck

inductive SyntaxKind where
  | functionDefinition
  | declaration
  | fieldDeclaration
  | typeDefinition
  | namespaceDefinition
  | linkageSpecification
  | classSpecifier
  | structSpecifier
  | unionSpecifier
  | enumSpecifier
  | templateDeclaration
  | templateInstantiation
  | templateParameterList
  | friendDeclaration
  | declarationList
  | fieldDeclarationList
  | preprocIf
  | preprocIfdef
  | preprocElse
  | preprocElif
  | preprocElifdef
  | error
  | functionDeclarator
  | pointerDeclarator
  | referenceDeclarator
  | attributedDeclarator
  | parenthesizedDeclarator
  | operatorCast
  | qualifiedIdentifier
  | qualifiedOperatorCastIdentifier
  | qualifiedTypeIdentifier
  | identifier
  | fieldIdentifier
  | operatorName
  | destructorName
  | templateFunction
  | templateType
  | other (name : String)
  deriving DecidableEq, Repr, Inhabited

namespace SyntaxKind

def known : List SyntaxKind :=
  [.functionDefinition, .declaration, .fieldDeclaration, .typeDefinition, .namespaceDefinition,
    .linkageSpecification, .classSpecifier, .structSpecifier, .unionSpecifier, .enumSpecifier,
    .templateDeclaration, .templateInstantiation, .templateParameterList, .friendDeclaration,
    .declarationList, .fieldDeclarationList, .preprocIf, .preprocIfdef, .preprocElse,
    .preprocElif, .preprocElifdef, .error, .functionDeclarator, .pointerDeclarator,
    .referenceDeclarator, .attributedDeclarator, .parenthesizedDeclarator, .operatorCast,
    .qualifiedIdentifier, .qualifiedOperatorCastIdentifier, .qualifiedTypeIdentifier,
    .identifier, .fieldIdentifier, .operatorName, .destructorName, .templateFunction,
    .templateType]

def name : SyntaxKind → String
  | functionDefinition => "function_definition"
  | declaration => "declaration"
  | fieldDeclaration => "field_declaration"
  | typeDefinition => "type_definition"
  | namespaceDefinition => "namespace_definition"
  | linkageSpecification => "linkage_specification"
  | classSpecifier => "class_specifier"
  | structSpecifier => "struct_specifier"
  | unionSpecifier => "union_specifier"
  | enumSpecifier => "enum_specifier"
  | templateDeclaration => "template_declaration"
  | templateInstantiation => "template_instantiation"
  | templateParameterList => "template_parameter_list"
  | friendDeclaration => "friend_declaration"
  | declarationList => "declaration_list"
  | fieldDeclarationList => "field_declaration_list"
  | preprocIf => "preproc_if"
  | preprocIfdef => "preproc_ifdef"
  | preprocElse => "preproc_else"
  | preprocElif => "preproc_elif"
  | preprocElifdef => "preproc_elifdef"
  | error => "ERROR"
  | functionDeclarator => "function_declarator"
  | pointerDeclarator => "pointer_declarator"
  | referenceDeclarator => "reference_declarator"
  | attributedDeclarator => "attributed_declarator"
  | parenthesizedDeclarator => "parenthesized_declarator"
  | operatorCast => "operator_cast"
  | qualifiedIdentifier => "qualified_identifier"
  | qualifiedOperatorCastIdentifier => "qualified_operator_cast_identifier"
  | qualifiedTypeIdentifier => "qualified_type_identifier"
  | identifier => "identifier"
  | fieldIdentifier => "field_identifier"
  | operatorName => "operator_name"
  | destructorName => "destructor_name"
  | templateFunction => "template_function"
  | templateType => "template_type"
  | other name => name

def ofName (text : String) : SyntaxKind :=
  (known.find? fun kind => kind.name == text).getD (.other text)

def isClassLike : SyntaxKind → Bool
  | classSpecifier | structSpecifier | unionSpecifier => true
  | _ => false

/-- Whether the grammar's name for the kind begins with `qualified_`. -/
def isQualified (kind : SyntaxKind) : Bool :=
  "qualified_".toList.isPrefixOf kind.name.toList

end SyntaxKind

inductive SyntaxField where
  | declarator
  | type
  | name
  | scope
  | body
  | value
  | other (name : String)
  deriving DecidableEq, Repr, Inhabited

namespace SyntaxField

def ofName : String → SyntaxField
  | "declarator" => declarator
  | "type" => type
  | "name" => .name
  | "scope" => scope
  | "body" => body
  | "value" => value
  | text => other text

end SyntaxField

end NamingCheck
