import TableLexer.Languages.Java

/-!
# AspectJ

AspectJ has the rules of Java. Its own words are told apart afterwards, by
corrections of the tokens.
-/

namespace TableLexer.AspectJ

def keywords : List String := ["aspect", "pointcut", "privileged", "call", "execution",
  "initialization", "preinitialization", "handler", "get", "set", "staticinitialization", "target",
  "args", "within", "withincode", "cflow", "cflowbelow", "annotation", "before", "after", "around",
  "proceed", "throwing", "returning", "adviceexecution", "declare", "parents", "warning", "error",
  "soft", "precedence", "thisJoinPoint", "thisJoinPointStaticPart",
  "thisEnclosingJoinPointStaticPart", "issingleton", "perthis", "pertarget", "percflow",
  "percflowbelow", "pertypewithin", "lock", "unlock", "thisAspectInstance"]

/-- Declarations between types. The rules of Java take them for labels. -/
def labels : List String := ["parents:", "warning:", "error:", "soft:", "precedence:"]

/-- Annotations in declarations between types. -/
def annotations : List String := ["@type", "@method", "@constructor", "@field"]

def rewrite : Rewrite := [
  .retag .name (keywords.map String.toList) .keyword,
  .splitLast .nameLabel (labels.map String.toList) .keyword .operator,
  .retag .nameDecorator (annotations.map String.toList) .keyword]

def grammar : Grammar := Java.grammar.derive "aspectj"

def table : Except BuildError Table := grammar.build []

def language : Language := { Language.new "AspectJ" ["aspectj"] table with rewrite }

end TableLexer.AspectJ
