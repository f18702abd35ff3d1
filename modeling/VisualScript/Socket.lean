/-!
# Sockets

The plug of a port: a type name with a qualifier, the wildcard, or the flow of
execution. Compatibility has a direction. It says whether what an output gives
may feed an input, never the reverse.
-/

namespace VisualScript

/-- How a value is held: by itself or by reference, changeable or constant. -/
inductive Qualifier where
  | value
  | const
  | ref
  | constRef
  deriving Repr, DecidableEq, Inhabited

namespace Qualifier

/-- All qualifiers, in the order of their bits. -/
def all : List Qualifier := [value, const, ref, constRef]

def isConst : Qualifier → Bool
  | value => false
  | const => true
  | ref => false
  | constRef => true

def isRef : Qualifier → Bool
  | value => false
  | const => false
  | ref => true
  | constRef => true

/-- The qualifier with the given properties. -/
def ofFlags (isConst isRef : Bool) : Qualifier :=
  match isConst, isRef with
  | false, false => value
  | true, false => const
  | false, true => ref
  | true, true => constRef

/-- Two bits: the lower one for constant, the upper one for reference. -/
def bits (qualifier : Qualifier) : Nat := qualifier.isConst.toNat + 2 * qualifier.isRef.toNat

/-- The qualifier with the given bits, if they are two bits. -/
def ofBits? (bits : Nat) : Option Qualifier := all[bits]?

/-- Whether a consumer with this qualifier takes a producer with the other, both
of one type. A reference asks for a reference, and one that may be written
through asks for another such. -/
def accepts (consumer producer : Qualifier) : Bool :=
  match consumer with
  | ref => producer = ref
  | constRef => producer.isRef
  | value => true
  | const => true

@[simp] theorem ofBits?_bits (qualifier : Qualifier) : ofBits? qualifier.bits = some qualifier := by
  cases qualifier <;> rfl

@[simp] theorem ofFlags_isConst_isRef (qualifier : Qualifier) :
    ofFlags qualifier.isConst qualifier.isRef = qualifier := by
  cases qualifier <;> rfl

end Qualifier

/-- The plug of a port. -/
inductive Socket where
  /-- Values of a type. -/
  | data (type : String) (qualifier : Qualifier)
  /-- Values of any type, under the name of the wildcard type. -/
  | any (type : String)
  /-- The order of execution, never mixed with values. -/
  | flow
  deriving Repr, DecidableEq, Inhabited

namespace Socket

/-- The type name that flow sockets go by. -/
def flowTypeName : String := "exec-flow"

def typeName : Socket → String
  | data type _ => type
  | any type => type
  | flow => flowTypeName

/-- The qualifier of a socket, plain for wildcards and flow. -/
def qualifier : Socket → Qualifier
  | data _ qualifier => qualifier
  | any _ => .value
  | flow => .value

/-- Whether the socket takes values of any type. -/
def isAny : Socket → Bool
  | any _ => true
  | _ => false

/-- Whether the socket orders execution. -/
def isFlow : Socket → Bool
  | flow => true
  | _ => false

/-- Whether an output with the first socket may feed an input with the second. -/
def feeds : Socket → Socket → Bool
  | flow, flow => true
  | flow, _ => false
  | _, flow => false
  | any _, _ => true
  | _, any _ => true
  | data output producer, data input consumer => output = input && consumer.accepts producer

def text : Socket → String
  | flow => "flow"
  | any type => type ++ "*"
  | data type .value => type
  | data type .const => "const " ++ type
  | data type .ref => type ++ "&"
  | data type .constRef => "const " ++ type ++ "&"

/-- A socket may feed one like itself. -/
@[simp] theorem feeds_self (socket : Socket) : socket.feeds socket = true := by
  cases socket with
  | data type qualifier => cases qualifier <;> simp [feeds, Qualifier.accepts, Qualifier.isRef]
  | any type => rfl
  | flow => rfl

end Socket

end VisualScript
