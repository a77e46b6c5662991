import ClassAtlas.Text.Cut

/-! The symbols of a decompiled program: classes with their members and nested
classes. A member is identified by its signature, which names the class that
declares it, so a class keeps the `declaringClass` of its members equal to its
own full name (`ClassSymbol.normalize`). -/
namespace ClassAtlas

/-- The superclass of a class that declares none. -/
def defaultSuperclass : String := "java.lang.Object"

/-- What stands after the last dot of a full name. -/
def simpleName (fullName : String) : String :=
  match Text.cutLast '.' fullName.toList with
  | some (_, last) => String.ofList last
  | none => fullName

structure MethodSymbol where
  name : String
  /-- Parameter types in the source dialect, in declaration order. -/
  params : List String := []
  returnType : String
  declaringClass : String := ""
  usedIn : List String := []
  overrides : List String := []
  source : Option String := none
  deriving DecidableEq

/-- The identifier of a method, as in `com.example.Abc.run(java.lang.String, int):void`. -/
def MethodSymbol.signature (m : MethodSymbol) : String :=
  m.declaringClass ++ "." ++ m.name ++ "(" ++ ", ".intercalate m.params ++ "):" ++ m.returnType

structure FieldSymbol where
  name : String
  fieldType : String
  declaringClass : String := ""
  usedIn : List String := []
  deriving DecidableEq

/-- The identifier of a field, as in `com.example.Abc.count :int`, with a blank before
the colon. -/
def FieldSymbol.signature (f : FieldSymbol) : String :=
  f.declaringClass ++ "." ++ f.name ++ " :" ++ f.fieldType

structure ClassSymbol where
  /-- Dotted full name; nested classes are joined with dots. -/
  fullName : String
  /-- Simple name. An empty one is filled in by `normalize`. -/
  name : String := ""
  /-- The superclass as written; nested owners keep their `$`. -/
  superclass : Option String := none
  interfaces : List String := []
  methods : List MethodSymbol := []
  fields : List FieldSymbol := []
  innerClasses : List ClassSymbol := []
  usedIn : List String := []
  source : Option String := none

namespace ClassSymbol

/-- A class with nothing but its names. -/
def ofFullName (fullName : String) : ClassSymbol :=
  ⟨fullName, simpleName fullName, none, [], [], [], [], [], none⟩

def superclassOrDefault (c : ClassSymbol) : String :=
  c.superclass.getD defaultSuperclass

def signature (c : ClassSymbol) : String := c.fullName

def withSuperclass (c : ClassSymbol) (superclass : String) : ClassSymbol :=
  { c with superclass := some superclass }

def withInterface (c : ClassSymbol) (interfaceName : String) : ClassSymbol :=
  { c with interfaces := c.interfaces ++ [interfaceName] }

def withMethod (c : ClassSymbol) (m : MethodSymbol) : ClassSymbol :=
  { c with methods := c.methods ++ [{ m with declaringClass := c.fullName }] }

def withField (c : ClassSymbol) (f : FieldSymbol) : ClassSymbol :=
  { c with fields := c.fields ++ [{ f with declaringClass := c.fullName }] }

def withInner (c inner : ClassSymbol) : ClassSymbol :=
  { c with innerClasses := c.innerClasses ++ [inner] }

def withSource (c : ClassSymbol) (source : String) : ClassSymbol :=
  { c with source := some source }

/-- The first method with this signature. -/
def findMethod? (c : ClassSymbol) (signature : String) : Option MethodSymbol :=
  c.methods.find? fun m => m.signature = signature

/-- The first field with this signature. -/
def findField? (c : ClassSymbol) (signature : String) : Option FieldSymbol :=
  c.fields.find? fun f => f.signature = signature

mutual

/-- Fill in what the class tree itself determines: an empty simple name, and the
declaring class of every member. -/
def normalize : ClassSymbol → ClassSymbol
  | ⟨fullName, name, superclass, interfaces, methods, fields, inner, usedIn, source⟩ =>
    ⟨fullName, if name = "" then simpleName fullName else name, superclass, interfaces,
      methods.map fun m => { m with declaringClass := fullName },
      fields.map fun f => { f with declaringClass := fullName },
      normalizeAll inner, usedIn, source⟩

def normalizeAll : List ClassSymbol → List ClassSymbol
  | [] => []
  | c :: rest => normalize c :: normalizeAll rest

end

mutual

/-- The class followed by its nested classes, outermost first. -/
def flatten : ClassSymbol → List ClassSymbol
  | c@⟨_, _, _, _, _, _, inner, _, _⟩ => c :: flattenAll inner

def flattenAll : List ClassSymbol → List ClassSymbol
  | [] => []
  | c :: rest => flatten c ++ flattenAll rest

end

end ClassSymbol

end ClassAtlas
