/-!
# Quote marks

Three characters quote in SQL: `'` for strings, `"` and the backtick for names.  The walks over raw
text treat them alike: a mark opens a quotation that runs to the next mark of the same kind.  A mark
that is written twice within its quotation closes it and opens it again, which comes to the same.
-/

set_option autoImplicit false

namespace Codebook.Sql

/-- Whether a character opens a quotation, which it closes as well. -/
def isQuoteMark (c : Char) : Bool := c == '\'' || c == '"' || c == '\x60'

end Codebook.Sql
