import TypeGuard.Pattern.Property.Control
import TypeGuard.Pattern.Property.Letter
import TypeGuard.Pattern.Property.Mark
import TypeGuard.Pattern.Property.Named
import TypeGuard.Pattern.Property.Number
import TypeGuard.Pattern.Property.Punctuation
import TypeGuard.Pattern.Property.Symbol

/-!
The general categories of Unicode 16. Every assigned character belongs to exactly one of them, and a
group of categories stands for all of its members.
-/

namespace TypeGuard.Pattern.Property

open CharSet (unionOf)

def letterCategories : List Named :=
  [⟨["lu", "uppercaseletter"], uppercaseLetter⟩,
   ⟨["ll", "lowercaseletter"], lowercaseLetter⟩,
   ⟨["lt", "titlecaseletter"], titlecaseLetter⟩,
   ⟨["lm", "modifierletter"], modifierLetter⟩,
   ⟨["lo", "otherletter"], otherLetter⟩]

def markCategories : List Named :=
  [⟨["mn", "nonspacingmark"], nonspacingMark⟩,
   ⟨["mc", "spacingmark"], spacingMark⟩,
   ⟨["me", "enclosingmark"], enclosingMark⟩]

def numberCategories : List Named :=
  [⟨["nd", "decimalnumber", "digit"], decimalNumber⟩,
   ⟨["nl", "letternumber"], letterNumber⟩,
   ⟨["no", "othernumber"], otherNumber⟩]

def punctuationCategories : List Named :=
  [⟨["pc", "connectorpunctuation"], connectorPunctuation⟩,
   ⟨["pd", "dashpunctuation"], dashPunctuation⟩,
   ⟨["ps", "openpunctuation"], openPunctuation⟩,
   ⟨["pe", "closepunctuation"], closePunctuation⟩,
   ⟨["pi", "initialpunctuation"], initialPunctuation⟩,
   ⟨["pf", "finalpunctuation"], finalPunctuation⟩,
   ⟨["po", "otherpunctuation"], otherPunctuation⟩]

def symbolCategories : List Named :=
  [⟨["sm", "mathsymbol"], mathSymbol⟩,
   ⟨["sc", "currencysymbol"], currencySymbol⟩,
   ⟨["sk", "modifiersymbol"], modifierSymbol⟩,
   ⟨["so", "othersymbol"], otherSymbol⟩]

def separatorCategories : List Named :=
  [⟨["zs", "spaceseparator"], spaceSeparator⟩,
   ⟨["zl", "lineseparator"], lineSeparator⟩,
   ⟨["zp", "paragraphseparator"], paragraphSeparator⟩]

def controlCategories : List Named :=
  [⟨["cc", "control", "cntrl"], control⟩,
   ⟨["cf", "format"], format⟩,
   ⟨["co", "privateuse"], privateUse⟩]

def groupOf (categories : List Named) : CharSet := unionOf (setsOf categories)

/-- The categories of the characters that neither control the text nor are for private use. -/
def graphicCategories : List Named :=
  letterCategories ++ markCategories ++ numberCategories ++ punctuationCategories
    ++ symbolCategories ++ separatorCategories

def assigned : CharSet := groupOf (graphicCategories ++ controlCategories)

/-- The groups of categories, and the names that stand beside the categories. -/
def categoryGroups : List Named :=
  [⟨["l", "letter"], groupOf letterCategories⟩,
   ⟨["lc", "casedletter"], groupOf (letterCategories.take 3)⟩,
   ⟨["m", "mark", "combiningmark"], groupOf markCategories⟩,
   ⟨["n", "number"], groupOf numberCategories⟩,
   ⟨["p", "punctuation", "punct"], groupOf punctuationCategories⟩,
   ⟨["s", "symbol"], groupOf symbolCategories⟩,
   ⟨["z", "separator"], groupOf separatorCategories⟩,
   ⟨["c", "other"], (groupOf graphicCategories).complement⟩,
   ⟨["cn", "unassigned"], assigned.complement⟩,
   ⟨["assigned"], assigned⟩,
   ⟨["ascii"], .range 0 0x7F⟩,
   ⟨["any"], CharSet.empty.complement⟩]

def categories : List Named := graphicCategories ++ controlCategories ++ categoryGroups

end TypeGuard.Pattern.Property
