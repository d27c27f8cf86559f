import DocStore.CharSet
import DocStore.Text.CaseSpans

namespace DocStore.CharSet

def spans : CharSet → Text.Spans
  | ranges rs => Text.Spans.ofRanges rs
  | runs rs => Text.Spans.ofRuns rs
  | literal c => [(c.toNat, c.toNat)]
  | literalAnyCase c => Text.Spans.ofRanges ((Text.caseVariants c).map fun d => (d.toNat, d.toNat))
  | digits => Text.digitSpans
  | blanks => Text.Spans.ofRanges Text.blanks
  | words => Text.wordSpans
  | union a b => a.spans.union b.spans
  | inter a b => a.spans.inter b.spans
  | compl a => a.spans.compl
  | anyCase a => a.spans.anyCase

end DocStore.CharSet
