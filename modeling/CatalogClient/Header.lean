/-!
# Headers

Which texts can be names and values of headers, and the form in which headers are compared: names
in lower case, values without blanks around them, in the order of the names.
-/

namespace CatalogClient

namespace Header

/-- Signs that a header name can hold besides letters and digits. -/
def nameSigns : List Char :=
  ['!', '#', '$', '%', '&', '\'', '*', '+', '-', '.', '^', '_', '\x60', '|', '~']

/-- Names are not empty, not longer than 65535 characters, and hold letters, digits and signs of
ASCII. -/
def isName (name : String) : Bool :=
  !name.isEmpty && name.length ≤ 65535
    && name.toList.all fun c => c.isAlphanum || nameSigns.contains c

/-- Values hold anything but controls; a tab does not count as one. -/
def isValue (value : String) : Bool :=
  value.toList.all fun c => c = '\t' || (0x20 ≤ c.toNat && c.toNat != 0x7F)

def isBlank (c : Char) : Bool := c = ' ' || c = '\t'

/-- A text without the blanks around it. -/
def trim (text : String) : String :=
  String.ofList ((text.toList.dropWhile isBlank).reverse.dropWhile isBlank).reverse

/-- Headers in the form in which they are compared. Equal names keep their order. -/
def normalize (headers : List (String × String)) : List (String × String) :=
  (headers.map fun (name, value) => (name.toLower, trim value)).mergeSort
    fun a b => decide (a.1 ≤ b.1)

/-- Headers of the connection, which say nothing about the response. -/
def ofConnection : List String := ["connection", "content-length"]

/-- The headers of a response, without those of its connection. -/
def shown (headers : List (String × String)) : List (String × String) :=
  (normalize headers).filter fun h => !ofConnection.contains h.1

end Header

end CatalogClient
