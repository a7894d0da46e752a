import JavaMetrics.Grammar.Rule

set_option autoImplicit false

namespace JavaMetrics.Grammar.Java
open Rule

/-- Binding levels, from loose to tight. -/
def assignLevel : Int := 1
def declarationLevel : Int := 2
def ternaryLevel : Int := 3
def orLevel : Int := 4
def andLevel : Int := 5
def bitOrLevel : Int := 6
def bitXorLevel : Int := 7
def bitAndLevel : Int := 8
def equalityLevel : Int := 9
def relationLevel : Int := 10
def shiftLevel : Int := 11
def addLevel : Int := 12
def multiplyLevel : Int := 13
def castLevel : Int := 14
def unaryLevel : Int := 15

def plain (r : Rule) : List Alternative := [{ rule := r }]

def identifier : Rule := terminal (.lexeme .identifier)
def thisRef : Rule := label .thisRef (text "this")
def superRef : Rule := label .superRef (text "super")
def reserved : Rule := category .reservedIdentifier
def typeIdentifier : Rule := label .typeIdentifier identifier
def underscore : Rule := label .underscorePattern (text "_")
def anyIdentifier : Rule := alt identifier reserved
def annotations : Rule := many (category .annotationAny)
def expression : Rule := category .expression
def statement : Rule := category .statement
def block : Rule := category .block
def unannotatedType : Rule := category .unannotatedType
def anyType : Rule := category .anyType
def optModifiers : Rule := opt (category .modifiers)

def name : Rule := oneOf [identifier, reserved, category .scopedIdentifier]

def simpleType : Rule :=
  oneOf [label .voidType (text "void"), category .integralType, category .floatingPointType,
    label .booleanType (text "boolean"), typeIdentifier, category .scopedTypeIdentifier,
    category .genericType]

def variableInitializer : Rule := alt expression (category .arrayInitializer)

def classBodyDeclaration : Rule :=
  oneOf [category .fieldDeclaration, category .recordDeclaration, category .methodDeclaration,
    category .compactConstructorDeclaration, category .classDeclaration,
    category .interfaceDeclaration, category .annotationTypeDeclaration,
    category .enumDeclaration, block, category .staticInitializer,
    category .constructorDeclaration, text ";"]

def words (ws : List String) : Rule := oneOf (ws.map text)

def binaryOperators : List (String × Int) :=
  [(">", relationLevel), ("<", relationLevel), (">=", relationLevel), ("<=", relationLevel),
   ("==", equalityLevel), ("!=", equalityLevel), ("&&", andLevel), ("||", orLevel),
   ("+", addLevel), ("-", addLevel), ("*", multiplyLevel), ("/", multiplyLevel),
   ("&", bitAndLevel), ("|", bitOrLevel), ("^", bitXorLevel), ("%", multiplyLevel),
   ("<<", shiftLevel), (">>", shiftLevel), (">>>", shiftLevel)]

def unaryOperators : List String := ["+", "-", "!", "~"]

def assignmentOperators : List String :=
  ["=", "+=", "-=", "*=", "/=", "&=", "|=", "^=", "%=", "<<=", ">>=", ">>>="]

def modifierWords : List String :=
  ["public", "protected", "private", "abstract", "static", "final", "strictfp", "default",
   "synchronized", "native", "transient", "volatile", "sealed", "non-sealed"]

def variablesAfter (head : List Rule) : List Alternative :=
  plain (inOrder (head ++ [role .type unannotatedType, category .variableDeclaratorList, text ";"]))

def moduleTargets : Rule :=
  inOrder [name, opt (inOrder [text "to", name, many (seq (text ",") name)]), text ";"]

def rules : Kind → List Alternative
  | .program => plain (many (category .toplevelStatement))
  | .toplevelStatement => plain (alt statement (category .methodDeclaration))
  | .literal =>
    plain (oneOf [terminal (.lexeme .number), label .booleanLiteral (text "true"),
      label .booleanLiteral (text "false"), terminal (.lexeme .character),
      category .stringLiteral, label .nullLiteral (text "null")])
  | .stringLiteral => plain (alt (category .plainString) (category .textBlock))
  | .plainString =>
    plain (inOrder [text "\"",
      many (oneOf [terminal (.lexeme .stringFragment), terminal (.lexeme .escapeSequence),
        category .stringInterpolation]),
      text "\""])
  | .textBlock =>
    plain (inOrder [text "\"\"\"",
      many (oneOf [label .stringFragment (category .textBlockFragment), category .textBlockEscape,
        category .stringInterpolation]),
      text "\"\"\""])
  | .textBlockFragment => plain (alt (terminal (.lexeme .blockText)) (terminal (.lexeme .blockQuote)))
  | .stringInterpolation => plain (inOrder [text "\\\x7b", expression, text "\x7d"])
  | .textBlockEscape =>
    [{ level := 2, rule := terminal (.lexeme .blockEscape) },
     { level := 1, rule := terminal (.lexeme .escapeSequence) }]
  | .expression =>
    plain (oneOf [category .assignmentExpression, category .binaryExpression,
      category .instanceofExpression, category .lambdaExpression, category .ternaryExpression,
      category .updateExpression, category .primaryExpression, category .unaryExpression,
      category .castExpression, category .switchExpression])
  | .castExpression =>
    [{ level := castLevel,
       rule := inOrder [text "(", role .type anyType, text ")", expression] },
     { level := castLevel,
       rule := inOrder [text "(", sepBy1 (role .type anyType) (text "&"), text ")",
        alt (category .primaryExpression) (category .lambdaExpression)] }]
  | .assignmentExpression =>
    [{ level := assignLevel, associativity := some .right,
       rule := inOrder [oneOf [identifier, reserved, category .fieldAccess, category .arrayAccess],
        words assignmentOperators, expression] }]
  | .binaryExpression =>
    binaryOperators.map fun (op, level) =>
      { level, associativity := some .left, rule := inOrder [expression, text op, expression] }
  | .instanceofExpression =>
    [{ level := relationLevel,
       rule := inOrder [expression, text "instanceof", opt (text "final"),
        alt (seq anyType (opt anyIdentifier)) (category .recordPattern)] }]
  | .lambdaExpression =>
    plain (inOrder [
      role .parameters (oneOf [identifier, category .formalParameters,
        category .inferredParameters, reserved]),
      text "->", alt expression block])
  | .inferredParameters => plain (inOrder [text "(", comma1 anyIdentifier, text ")"])
  | .ternaryExpression =>
    [{ level := ternaryLevel, associativity := some .right,
       rule := inOrder [expression, text "?", expression, text ":", expression] }]
  | .unaryExpression =>
    unaryOperators.map fun op =>
      { level := unaryLevel, associativity := some .left, rule := seq (text op) expression }
  | .updateExpression =>
    [seq expression (text "++"), seq expression (text "--"), seq (text "++") expression,
     seq (text "--") expression].map fun rule =>
      { level := unaryLevel, associativity := some .left, rule }
  | .primaryExpression =>
    plain (oneOf [category .literal, category .classLiteral, thisRef, identifier, reserved,
      category .parenthesizedExpression, category .objectCreationExpression,
      category .fieldAccess, category .arrayAccess, category .methodInvocation,
      category .methodReference, category .arrayCreationExpression,
      category .templateExpression])
  | .arrayCreationExpression =>
    [{ associativity := some .right,
       rule := inOrder [text "new", annotations, role .type simpleType,
        alt (seq (many1 (category .dimensionsExpr)) (opt (category .dimensions)))
          (seq (category .dimensions) (category .arrayInitializer))] }]
  | .dimensionsExpr => plain (inOrder [annotations, text "[", expression, text "]"])
  | .parenthesizedExpression => plain (inOrder [text "(", expression, text ")"])
  | .classLiteral => [{ weight := 17, rule := inOrder [unannotatedType, text ".", text "class"] }]
  | .objectCreationExpression =>
    plain (alt (category .unqualifiedObjectCreation)
      (inOrder [category .primaryExpression, text ".", category .unqualifiedObjectCreation]))
  | .unqualifiedObjectCreation =>
    [{ associativity := some .right,
       rule := inOrder [text "new",
        alt (inOrder [annotations, category .typeArguments, annotations]) annotations,
        role .type simpleType, category .argumentList, opt (category .classBody)] }]
  | .fieldAccess =>
    plain (inOrder [role .object (alt (category .primaryExpression) superRef),
      opt (seq (text ".") superRef), text ".", role .member (oneOf [identifier, reserved, thisRef])])
  | .templateExpression =>
    plain (inOrder [category .primaryExpression, text ".", category .stringLiteral])
  | .arrayAccess =>
    plain (inOrder [category .primaryExpression, text "[", expression, text "]"])
  | .methodInvocation =>
    plain (seq
      (alt (role .name anyIdentifier)
        (inOrder [role .object (alt (category .primaryExpression) superRef), text ".",
          opt (seq superRef (text ".")), opt (category .typeArguments), role .name anyIdentifier]))
      (category .argumentList))
  | .argumentList => plain (inOrder [text "(", comma expression, text ")"])
  | .methodReference =>
    plain (inOrder [oneOf [anyType, category .primaryExpression, superRef], text "::",
      opt (category .typeArguments), alt (text "new") identifier])
  | .typeArguments =>
    plain (inOrder [text "<", comma (alt anyType (category .wildcard)), text ">"])
  | .wildcard => plain (inOrder [annotations, text "?", opt (category .wildcardBounds)])
  | .wildcardBounds => plain (alt (seq (text "extends") anyType) (seq superRef anyType))
  | .dimensions =>
    [{ associativity := some .right, rule := many1 (inOrder [annotations, text "[", text "]"]) }]
  | .switchExpression =>
    plain (inOrder [text "switch", category .parenthesizedExpression, category .switchBlock])
  | .switchBlock =>
    plain (inOrder [text "\x7b",
      alt (many (category .switchBlockStatementGroup)) (many (category .switchRule)), text "\x7d"])
  | .switchBlockStatementGroup =>
    [{ associativity := some .left,
       rule := seq (many1 (seq (category .switchLabel) (text ":"))) (many statement) }]
  | .switchRule =>
    plain (inOrder [category .switchLabel, text "->",
      oneOf [category .expressionStatement, category .throwStatement, block]])
  | .switchLabel =>
    plain (alt (inOrder [text "case", alt (category .pattern) (comma1 expression),
      opt (category .guard)]) (text "default"))
  | .pattern => plain (alt (category .typePattern) (category .recordPattern))
  | .typePattern => plain (seq unannotatedType anyIdentifier)
  | .recordPattern =>
    plain (seq (oneOf [identifier, reserved, category .genericType]) (category .recordPatternBody))
  | .recordPatternBody =>
    plain (inOrder [text "(",
      comma (alt (category .recordPatternComponent) (category .recordPattern)), text ")"])
  | .recordPatternComponent => plain (alt underscore (seq unannotatedType anyIdentifier))
  | .guard => plain (seq (text "when") expression)
  | .statement =>
    plain (oneOf [category .declaration, category .expressionStatement,
      category .labeledStatement, category .ifStatement, category .whileStatement,
      category .forStatement, category .enhancedForStatement, block, text ";",
      category .assertStatement, category .doStatement, category .breakStatement,
      category .continueStatement, category .returnStatement, category .yieldStatement,
      category .switchExpression, category .synchronizedStatement,
      category .localVariableDeclaration, category .throwStatement, category .tryStatement,
      category .tryWithResourcesStatement])
  | .block => plain (inOrder [text "\x7b", many statement, text "\x7d"])
  | .expressionStatement => plain (seq expression (text ";"))
  | .labeledStatement => plain (inOrder [identifier, text ":", statement])
  | .assertStatement =>
    plain (alt (inOrder [text "assert", expression, text ";"])
      (inOrder [text "assert", expression, text ":", expression, text ";"]))
  | .doStatement =>
    plain (inOrder [text "do", statement, text "while", category .parenthesizedExpression, text ";"])
  | .breakStatement => plain (inOrder [text "break", opt identifier, text ";"])
  | .continueStatement => plain (inOrder [text "continue", opt identifier, text ";"])
  | .returnStatement => plain (inOrder [text "return", opt expression, text ";"])
  | .yieldStatement => plain (inOrder [text "yield", expression, text ";"])
  | .synchronizedStatement =>
    plain (inOrder [text "synchronized", category .parenthesizedExpression, block])
  | .throwStatement => plain (inOrder [text "throw", expression, text ";"])
  | .tryStatement =>
    plain (inOrder [text "try", block, alt (many1 (category .catchClause))
      (seq (many (category .catchClause)) (category .finallyClause))])
  | .catchClause =>
    plain (inOrder [text "catch", text "(", category .catchFormalParameter, text ")", block])
  | .catchFormalParameter =>
    plain (inOrder [optModifiers, category .catchType, category .variableDeclaratorId])
  | .catchType => plain (sepBy1 unannotatedType (text "|"))
  | .finallyClause => plain (seq (text "finally") block)
  | .tryWithResourcesStatement =>
    plain (inOrder [text "try", category .resourceSpecification, block,
      many (category .catchClause), opt (category .finallyClause)])
  | .resourceSpecification =>
    plain (inOrder [text "(", sepBy1 (category .resource) (text ";"), opt (text ";"), text ")"])
  | .resource =>
    plain (oneOf [inOrder [optModifiers, role .type unannotatedType,
      category .variableDeclaratorId, text "=", expression], identifier, category .fieldAccess])
  | .ifStatement =>
    [{ associativity := some .right,
       rule := inOrder [text "if", category .parenthesizedExpression, statement,
        opt (seq (text "else") statement)] }]
  | .whileStatement => plain (inOrder [text "while", category .parenthesizedExpression, statement])
  | .forStatement =>
    plain (inOrder [text "for", text "(",
      alt (category .localVariableDeclaration) (seq (comma expression) (text ";")),
      opt expression, text ";", comma expression, text ")", statement])
  | .enhancedForStatement =>
    plain (inOrder [text "for", text "(", optModifiers, role .type unannotatedType,
      category .variableDeclaratorId, text ":", expression, text ")", statement])
  | .annotationAny => plain (alt (category .annotationMarker) (category .annotationWithArguments))
  | .annotationMarker => plain (seq (text "@") name)
  | .annotationWithArguments => plain (inOrder [text "@", name, category .annotationArgumentList])
  | .annotationArgumentList =>
    plain (inOrder [text "(", alt (category .elementValue) (comma (category .elementValuePair)),
      text ")"])
  | .elementValuePair => plain (inOrder [anyIdentifier, text "=", category .elementValue])
  | .elementValue =>
    [expression, category .elementValueArrayInitializer, category .annotationAny].map fun rule =>
      { level := declarationLevel, rule }
  | .elementValueArrayInitializer =>
    plain (inOrder [text "\x7b", comma (category .elementValue), opt (text ","), text "\x7d"])
  | .declaration =>
    [Kind.moduleDeclaration, .packageDeclaration, .importDeclaration, .classDeclaration,
     .recordDeclaration, .interfaceDeclaration, .annotationTypeDeclaration,
     .enumDeclaration].map fun k => { level := declarationLevel, rule := category k }
  | .moduleDeclaration =>
    plain (inOrder [annotations, opt (text "open"), text "module", name, category .moduleBody])
  | .moduleBody => plain (inOrder [text "\x7b", many (category .moduleDirective), text "\x7d"])
  | .moduleDirective =>
    plain (oneOf [category .requiresDirective, category .exportsDirective,
      category .opensDirective, category .usesDirective, category .providesDirective])
  | .requiresDirective =>
    plain (inOrder [text "requires", many (category .requiresModifier), name, text ";"])
  | .requiresModifier => plain (words ["transitive", "static"])
  | .exportsDirective => plain (seq (text "exports") moduleTargets)
  | .opensDirective => plain (seq (text "opens") moduleTargets)
  | .usesDirective => plain (inOrder [text "uses", name, text ";"])
  | .providesDirective =>
    plain (inOrder [text "provides", name, text "with", name, many (seq (text ",") name), text ";"])
  | .packageDeclaration => plain (inOrder [annotations, text "package", name, text ";"])
  | .importDeclaration =>
    plain (inOrder [text "import", opt (text "static"), name,
      opt (seq (text ".") (label .asterisk (text "*"))), text ";"])
  | .enumDeclaration =>
    plain (inOrder [optModifiers, text "enum", role .name identifier,
      role .interfaces (opt (category .superInterfaces)), role .body (category .enumBody)])
  | .enumBody =>
    plain (inOrder [text "\x7b", comma (category .enumConstant), opt (text ","),
      opt (category .enumBodyDeclarations), text "\x7d"])
  | .enumBodyDeclarations => plain (seq (text ";") (many classBodyDeclaration))
  | .enumConstant =>
    plain (inOrder [optModifiers, role .name identifier, opt (category .argumentList),
      role .body (opt (category .classBody))])
  | .classDeclaration =>
    plain (inOrder [optModifiers, text "class", role .name identifier,
      opt (role .typeParameters (category .typeParameters)),
      opt (role .superclass (category .superclass)),
      opt (role .interfaces (category .superInterfaces)), opt (category .permits),
      role .body (category .classBody)])
  | .modifiers => plain (many1 (alt (category .annotationAny) (words modifierWords)))
  | .typeParameters => plain (inOrder [text "<", comma1 (category .typeParameter), text ">"])
  | .typeParameter => plain (inOrder [annotations, typeIdentifier, opt (category .typeBound)])
  | .typeBound => plain (inOrder [text "extends", anyType, many (seq (text "&") anyType)])
  | .superclass => plain (seq (text "extends") anyType)
  | .superInterfaces => plain (seq (text "implements") (category .typeList))
  | .typeList => plain (seq anyType (many (seq (text ",") anyType)))
  | .permits => plain (seq (text "permits") (category .typeList))
  | .classBody => plain (inOrder [text "\x7b", many classBodyDeclaration, text "\x7d"])
  | .staticInitializer => plain (seq (text "static") block)
  | .constructorDeclaration =>
    plain (inOrder [optModifiers, category .constructorDeclarator, opt (category .throwsClause),
      role .body (category .constructorBody)])
  | .constructorDeclarator =>
    plain (inOrder [role .typeParameters (opt (category .typeParameters)), role .name identifier,
      role .parameters (category .formalParameters)])
  | .constructorBody =>
    plain (inOrder [text "\x7b", opt (category .explicitConstructorInvocation), many statement,
      text "\x7d"])
  | .explicitConstructorInvocation =>
    plain (inOrder [
      alt (seq (opt (category .typeArguments)) (alt thisRef superRef))
        (inOrder [category .primaryExpression, text ".", opt (category .typeArguments), superRef]),
      category .argumentList, text ";"])
  | .scopedIdentifier => plain (inOrder [name, text ".", identifier])
  | .fieldDeclaration => variablesAfter [optModifiers]
  | .recordDeclaration =>
    plain (inOrder [optModifiers, text "record", role .name identifier,
      opt (role .typeParameters (category .typeParameters)),
      role .parameters (category .formalParameters),
      opt (role .interfaces (category .superInterfaces)), role .body (category .classBody)])
  | .annotationTypeDeclaration =>
    plain (inOrder [optModifiers, text "@interface", role .name identifier,
      role .body (category .annotationTypeBody)])
  | .annotationTypeBody =>
    plain (inOrder [text "\x7b",
      many (oneOf [category .annotationTypeElement, category .constantDeclaration,
        category .classDeclaration, category .interfaceDeclaration, category .enumDeclaration,
        category .annotationTypeDeclaration, text ";"]),
      text "\x7d"])
  | .annotationTypeElement =>
    plain (inOrder [optModifiers, role .type unannotatedType, role .name anyIdentifier, text "(",
      text ")", opt (category .dimensions), opt (category .defaultValue), text ";"])
  | .defaultValue => plain (seq (text "default") (category .elementValue))
  | .interfaceDeclaration =>
    plain (inOrder [optModifiers, text "interface", role .name identifier,
      role .typeParameters (opt (category .typeParameters)), opt (category .extendsInterfaces),
      opt (category .permits), role .body (category .interfaceBody)])
  | .extendsInterfaces => plain (seq (text "extends") (category .typeList))
  | .interfaceBody =>
    plain (inOrder [text "\x7b",
      many (oneOf [category .constantDeclaration, category .enumDeclaration,
        category .methodDeclaration, category .classDeclaration, category .interfaceDeclaration,
        category .recordDeclaration, category .annotationTypeDeclaration, text ";"]),
      text "\x7d"])
  | .constantDeclaration => variablesAfter [optModifiers]
  | .variableDeclaratorList => plain (comma1 (role .declarator (category .variableDeclarator)))
  | .variableDeclarator =>
    plain (seq (category .variableDeclaratorId)
      (opt (seq (text "=") (role .value variableInitializer))))
  | .variableDeclaratorId =>
    plain (seq (role .name (oneOf [identifier, reserved, underscore])) (opt (category .dimensions)))
  | .arrayInitializer =>
    plain (inOrder [text "\x7b", comma variableInitializer, opt (text ","), text "\x7d"])
  | .anyType => plain (alt unannotatedType (category .annotatedType))
  | .unannotatedType => plain (alt simpleType (category .arrayType))
  | .annotatedType => plain (seq (many1 (category .annotationAny)) unannotatedType)
  | .scopedTypeIdentifier =>
    plain (inOrder [oneOf [typeIdentifier, category .scopedTypeIdentifier, category .genericType],
      text ".", annotations, typeIdentifier])
  | .genericType =>
    [{ weight := 10,
       rule := seq (alt typeIdentifier (category .scopedTypeIdentifier)) (category .typeArguments) }]
  | .arrayType => plain (seq unannotatedType (category .dimensions))
  | .integralType => plain (words ["byte", "short", "int", "long", "char"])
  | .floatingPointType => plain (words ["float", "double"])
  | .methodHeader =>
    plain (inOrder [opt (seq (role .typeParameters (category .typeParameters)) annotations),
      role .type unannotatedType, category .methodDeclarator, opt (category .throwsClause)])
  | .methodDeclarator =>
    plain (inOrder [role .name anyIdentifier, role .parameters (category .formalParameters),
      opt (category .dimensions)])
  | .formalParameters =>
    plain (inOrder [text "(",
      alt (category .receiverParameter)
        (seq (opt (seq (category .receiverParameter) (text ",")))
          (comma (alt (category .formalParameter) (category .spreadParameter)))),
      text ")"])
  | .formalParameter =>
    plain (inOrder [optModifiers, role .type unannotatedType, category .variableDeclaratorId])
  | .receiverParameter =>
    plain (inOrder [annotations, unannotatedType, many (seq identifier (text ".")), thisRef])
  | .spreadParameter =>
    plain (inOrder [optModifiers, unannotatedType, text "...", annotations,
      category .variableDeclarator])
  | .throwsClause => plain (seq (text "throws") (comma1 anyType))
  | .localVariableDeclaration => variablesAfter [optModifiers]
  | .methodDeclaration =>
    plain (inOrder [optModifiers, category .methodHeader, alt (role .body block) (text ";")])
  | .compactConstructorDeclaration =>
    plain (inOrder [optModifiers, role .name identifier, role .body block])
  | .reservedIdentifier =>
    ["open", "module", "record", "with", "sealed"].map (fun w =>
      { level := -3, rule := label .identifier (text w) }) ++
    plain (label .identifier (text "yield"))
  | _ => []

end JavaMetrics.Grammar.Java
