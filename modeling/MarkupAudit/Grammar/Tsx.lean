import MarkupAudit.Grammar.Statement

/-! The grammar of component sources, which accepts scripts with and without types and with markup
in them. Of the tree of a source it keeps the markup and the code that markup embeds. -/
namespace MarkupAudit.Grammar

def ruleForm : Rule → Form
  | .statement => statementForm
  | .block => blockForm
  | .declaration => declarationForm
  | .expression => expressionForm
  | .consequent => consequentForm
  | .operand => operandForm
  | .primary => primaryForm
  | .chain => chainForm
  | .callable => callableForm
  | .arguments => argumentsForm
  | .object => objectForm
  | .template => templateForm
  | .function => functionForm
  | .arrow => arrowForm
  | .classTail => classTailForm
  | .decorator => decoratorForm
  | .pattern => patternForm
  | .parameters => parametersForm
  | .type => typeForm
  | .typeOperand => typeOperandForm
  | .typeArguments => typeArgumentsForm
  | .typeParameters => typeParametersForm
  | .returnType => returnTypeForm
  | .objectType => objectTypeForm
  | .markup => markupForm
  | .tagHead => tagHeadForm

/-- The tree of a component source, or nothing where the grammar does not fit it. -/
def tsx (source : String) : Option SourceNode :=
  match Peg.parse ruleForm program source with
  | some (_, [tree]) => some tree
  | _ => none

end MarkupAudit.Grammar
