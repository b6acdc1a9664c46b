import AmphoraWiring.Error

/-!
The bytes of a database file, as far as the engine looks at them before it reads a record: the
head of the file and the head of the root page. Behind its end a file counts as zero.
-/
namespace AmphoraWiring

structure DatabaseImage where
  bytes : ByteArray

namespace DatabaseImage

def byte (image : DatabaseImage) (i : Nat) : Nat :=
  if h : i < image.bytes.size then image.bytes[i].toNat else 0

/-- Two bytes as a number, the more significant one first. -/
def half (image : DatabaseImage) (i : Nat) : Nat := image.byte i * 256 + image.byte (i + 1)

def word (image : DatabaseImage) (i : Nat) : Nat := image.half i * 65536 + image.half (i + 2)

/-- A file of a single byte counts as empty. -/
def isBlank (image : DatabaseImage) : Bool := image.bytes.size ≤ 1

/-- The text with which a database file begins, and the zero that ends it. -/
def mark : List Nat := "SQLite format 3".toList.map Char.toNat ++ [0]

def hasMark (image : DatabaseImage) : Bool := (List.range mark.length).map image.byte = mark

/-! The head of the file -/

def pageSize (image : DatabaseImage) : Nat := image.byte 16 * 256 + image.byte 17 * 65536

def pageSizes : List Nat := [512, 1024, 2048, 4096, 8192, 16384, 32768, 65536]

def writeVersion (image : DatabaseImage) : Nat := image.byte 18

def readVersion (image : DatabaseImage) : Nat := image.byte 19

/-- The version of files with a write-ahead log. -/
def logVersion : Nat := 2

/-- The part of a page that is not reserved. -/
def usableSize (image : DatabaseImage) : Nat := image.pageSize - image.byte 20

def leastUsableSize : Nat := 480

/-- Shares of a page that the format fixes. -/
def hasShares (image : DatabaseImage) : Bool :=
  [image.byte 21, image.byte 22, image.byte 23] = [64, 32, 32]

def pagesHeld (image : DatabaseImage) : Nat :=
  (image.bytes.size + image.pageSize - 1) / image.pageSize

/-- The number of pages in the head counts if it was written together with the last change. -/
def pages (image : DatabaseImage) : Nat :=
  if image.word 28 = 0 || image.word 24 ≠ image.word 92 then image.pagesHeld else image.word 28

def freePages (image : DatabaseImage) : Nat := image.word 36

def schemaFormat (image : DatabaseImage) : Nat := image.byte 47

/-! The root page, whose head stands behind the head of the file -/

def rootStart : Nat := 100

def rootKind (image : DatabaseImage) : Nat := image.byte rootStart

def firstFreeBlock (image : DatabaseImage) : Nat := image.half (rootStart + 1)

def cells (image : DatabaseImage) : Nat := image.half (rootStart + 3)

/-- Where the content of the page begins; zero stands for the end of the greatest page. -/
def contentStart (image : DatabaseImage) : Nat :=
  if image.half (rootStart + 5) = 0 then 65536 else image.half (rootStart + 5)

def fragments (image : DatabaseImage) : Nat := image.byte (rootStart + 7)

/-- The end of the pointers to cells in a page without children. -/
def pointersEnd (image : DatabaseImage) : Nat := rootStart + 8 + 2 * image.cells

def hasCellAt (image : DatabaseImage) (n : Nat) : Bool :=
  let place := image.half (rootStart + 8 + 2 * n)
  image.pointersEnd ≤ place && place + 4 ≤ image.usableSize

/-- The kinds of pages of a table: without children, and with children between which its cells
stand. -/
def leafKind : Nat := 13

def branchKind : Nat := 5

def hasCells (image : DatabaseImage) : Bool :=
  image.cells * 6 + 8 ≤ image.pageSize && (List.range image.cells).all image.hasCellAt

/-- Whether the last child of the root page is a page of a table. -/
def hasLastChild (image : DatabaseImage) : Bool :=
  let child := image.word (rootStart + 8)
  2 ≤ child && child ≤ image.pages &&
    [leafKind, branchKind].contains (image.byte ((child - 1) * image.pageSize))

def hasReadableRoot (image : DatabaseImage) : Bool :=
  if image.rootKind = leafKind then image.hasCells
  else image.rootKind = branchKind && 0 < image.cells && image.hasLastChild

/-- Whether a database can be read from the file. A file with a log can be read if the storage
allows logs, or if nothing can change so that the log is not looked at. -/
def checkReading (image : DatabaseImage) (allowsLog : Bool) : Except DatabaseError Unit :=
  if image.isBlank then .ok ()
  else if !image.hasMark || logVersion < image.readVersion then .error (.refused .notADatabase)
  else if image.readVersion = logVersion && !allowsLog then .error (.refused .cannotOpen)
  else if !image.hasShares || !pageSizes.contains image.pageSize then
    .error (.refused .notADatabase)
  else if image.pagesHeld < image.pages then .error (.refused .malformed)
  else if image.usableSize < leastUsableSize then .error (.refused .notADatabase)
  else if 4 < image.schemaFormat then .error (.refused .unsupportedFormat)
  else if !image.hasReadableRoot then .error (.refused .malformed)
  else .ok ()

def isWritable (image : DatabaseImage) : Bool := image.writeVersion ≤ 2

/-- The bytes in the free blocks of the root page from a place on. Each block begins with the place
of the next one, which lies farther on, and with its own size. -/
def freeBytes? (image : DatabaseImage) : Nat → Nat → Option Nat
  | 0, _ => none
  | limit + 1, place =>
    let next := image.half place
    let size := image.half (place + 2)
    if image.usableSize < place + 4 then none
    else if place + size + 3 < next then (image.freeBytes? limit next).map (size + ·)
    else if 0 < next || image.usableSize < place + size then none
    else some size

/-- The bytes in the free blocks of the root page, which lie among its content. -/
def blockBytes? (image : DatabaseImage) : Option Nat :=
  if image.firstFreeBlock = 0 then some 0
  else if image.firstFreeBlock < image.contentStart then none
  else image.freeBytes? image.pageSize image.firstFreeBlock

/-- Whether a table can be added to a file that can be read: the free space on the root page has to
add up, and not all pages can be free. -/
def hasRoom (image : DatabaseImage) : Bool :=
  match image.blockBytes? with
  | none => false
  | some bytes =>
    let free := image.fragments + image.contentStart + bytes
    free ≤ image.usableSize && image.pointersEnd ≤ free && image.freePages < image.pages

def checkRoom (image : DatabaseImage) : Except DatabaseError Unit :=
  if image.isBlank || image.rootKind ≠ leafKind || image.hasRoom then .ok ()
  else .error (.refused .malformed)

end DatabaseImage

end AmphoraWiring
