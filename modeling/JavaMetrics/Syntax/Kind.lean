/-!
Grammatical categories of Java source. The first block are the categories that have rules of
their own, in the order in which the grammar ranks them; the second block are the leaves.
Categories that only group others (an expression is one of ten things) leave no node in a
syntax tree and are listed by `Kind.isHidden`.
-/

set_option autoImplicit false

namespace JavaMetrics

inductive Kind where
  | program | toplevelStatement | literal | stringLiteral | plainString | textBlock | textBlockFragment
  | stringInterpolation | textBlockEscape | expression | castExpression | assignmentExpression
  | binaryExpression | instanceofExpression | lambdaExpression | inferredParameters | ternaryExpression
  | unaryExpression | updateExpression | primaryExpression | arrayCreationExpression | dimensionsExpr
  | parenthesizedExpression | classLiteral | objectCreationExpression | unqualifiedObjectCreation
  | fieldAccess | templateExpression | arrayAccess | methodInvocation | argumentList | methodReference
  | typeArguments | wildcard | wildcardBounds | dimensions | switchExpression | switchBlock
  | switchBlockStatementGroup | switchRule | switchLabel | pattern | typePattern | recordPattern
  | recordPatternBody | recordPatternComponent | guard | statement | block | expressionStatement
  | labeledStatement | assertStatement | doStatement | breakStatement | continueStatement
  | returnStatement | yieldStatement | synchronizedStatement | throwStatement | tryStatement
  | catchClause | catchFormalParameter | catchType | finallyClause | tryWithResourcesStatement
  | resourceSpecification | resource | ifStatement | whileStatement | forStatement
  | enhancedForStatement | annotationAny | annotationMarker | annotationWithArguments | annotationArgumentList
  | elementValuePair | elementValue | elementValueArrayInitializer | declaration | moduleDeclaration
  | moduleBody | moduleDirective | requiresDirective | requiresModifier | exportsDirective
  | opensDirective | usesDirective | providesDirective | packageDeclaration | importDeclaration
  | enumDeclaration | enumBody | enumBodyDeclarations | enumConstant | classDeclaration | modifiers
  | typeParameters | typeParameter | typeBound | superclass | superInterfaces | typeList | permits
  | classBody | staticInitializer | constructorDeclaration | constructorDeclarator | constructorBody
  | explicitConstructorInvocation | scopedIdentifier | fieldDeclaration | recordDeclaration
  | annotationTypeDeclaration | annotationTypeBody | annotationTypeElement | defaultValue
  | interfaceDeclaration | extendsInterfaces | interfaceBody | constantDeclaration
  | variableDeclaratorList | variableDeclarator | variableDeclaratorId | arrayInitializer | anyType
  | unannotatedType | annotatedType | scopedTypeIdentifier | genericType | arrayType | integralType
  | floatingPointType | methodHeader | methodDeclarator | formalParameters | formalParameter
  | receiverParameter | spreadParameter | throwsClause | localVariableDeclaration | methodDeclaration
  | compactConstructorDeclaration | reservedIdentifier
  | identifier | typeIdentifier | thisRef | superRef | booleanType | voidType | numberLiteral
  | characterLiteral | booleanLiteral | nullLiteral | stringFragment | escapeSequence
  | underscorePattern | asterisk | lineComment | blockComment | staticKeyword | defaultKeyword | token
deriving DecidableEq, Repr, Inhabited, Hashable

namespace Kind

def ruleCount : Nat := Kind.identifier.ctorIdx

def withRules : List Kind := (List.range ruleCount).map Kind.ofNat

/-- Categories whose nodes are replaced by their children. -/
def isHidden : Kind → Bool
  | toplevelStatement | literal | plainString | textBlock | textBlockFragment | textBlockEscape
  | expression | primaryExpression | unqualifiedObjectCreation | wildcardBounds | statement
  | annotationAny | elementValue | declaration | moduleDirective | constructorDeclarator
  | defaultValue | variableDeclaratorList | variableDeclaratorId | anyType | unannotatedType
  | methodHeader | methodDeclarator | reservedIdentifier => true
  | _ => false

def isNamed : Kind → Bool
  | staticKeyword | defaultKeyword | token => false
  | _ => true

def isComment : Kind → Bool
  | lineComment | blockComment => true
  | _ => false

end Kind

inductive Field where
  | name | body | superclass | interfaces | typeParameters | parameters | type | declarator | value
  | object | member
deriving DecidableEq, Repr, Inhabited, Hashable

end JavaMetrics
