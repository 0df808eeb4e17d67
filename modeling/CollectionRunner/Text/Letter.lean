import CollectionRunner.Unicode.Category
import CollectionRunner.Unicode.Property

namespace CollectionRunner.Text

open Unicode

def alphabetic : CodeSet := Property.alphabetic.codes

def numerals : CodeSet :=
  .unionAll [Category.decimalNumber.codes, Category.letterNumber.codes, Category.otherNumber.codes]

def isAlphanumeric (c : Char) : Bool :=
  if c.toNat < 128 then c.isAlphanum
  else alphabetic.contains c.toNat || numerals.contains c.toNat

/-- Code points that show nothing of their own: controls, spaces, those that belong to nobody, and
marks that change what stands before them. -/
def unprintable : CodeSet :=
  .unionAll [Category.control.codes, Category.format.codes, Category.surrogate.codes,
    Category.privateUse.codes, Category.unassigned.codes, Category.lineSeparator.codes,
    Category.paragraphSeparator.codes, Category.spaceSeparator.codes, Property.graphemeExtend.codes]

def isPrintable (c : Char) : Bool := c == ' ' || ! unprintable.contains c.toNat

end CollectionRunner.Text
