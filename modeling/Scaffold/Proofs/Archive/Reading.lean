import Scaffold.Archive.Library

/-!
# Reading an archive

The files of an archive are read from the front, each from behind its header, until
the directory begins.  A name ends where the header says, a content where its stream
does, so nothing else of the headers is needed but the checksum.  Reading gives back
the files that were encoded, however large they are, as long as the length of each
name fits into its header.
-/

namespace Scaffold.Archive

/-! ## Numbers and bytes -/

/-- The number that some bytes encode, the lowest one first. -/
def ofLittleEndian : List UInt8 → Nat
  | [] => 0
  | byte :: bytes => byte.toNat + 256 * ofLittleEndian bytes

theorem ofLittleEndian_littleEndian {width n : Nat} (fits : n < Nat.pow 256 width) :
    ofLittleEndian (littleEndian width n) = n := by
  induction width generalizing n with
  | zero => exact (Nat.lt_one_iff.mp fits).symm
  | succ width ih =>
      have quotientFits : n / 256 < Nat.pow 256 width := by
        rw [Nat.div_lt_iff_lt_mul (by decide)]
        exact fits
      rw [littleEndian, ofLittleEndian, ih quotientFits, UInt8.toNat_ofNat']
      omega

/-- The first bytes of a list, as many as asked for, and the rest. -/
def takeBytes? (count : Nat) (bytes : List UInt8) : Option (List UInt8 × List UInt8) :=
  if count ≤ bytes.length then some (bytes.take count, bytes.drop count) else none

theorem takeBytes?_append {count : Nat} {first : List UInt8} (length_eq : first.length = count)
    (rest : List UInt8) : takeBytes? count (first ++ rest) = some (first, rest) := by
  subst length_eq
  simp [takeBytes?]

theorem length_of_takeBytes? {count : Nat} {bytes first rest : List UInt8}
    (taken : takeBytes? count bytes = some (first, rest)) :
    rest.length + count = bytes.length := by
  unfold takeBytes? at taken
  split at taken
  · next enough =>
      cases taken
      rw [List.length_drop, Nat.sub_add_cancel enough]
  · cases taken

/-! ## Streams -/

/-- The content of a stream of stored blocks at the front of some bytes, and the rest.
The first byte of a block tells whether it is the last one, and the next two how long
it is. -/
def inflate? : List UInt8 → Option (List UInt8 × List UInt8)
  | isLast :: low :: high :: _ :: _ :: bytes =>
      match _taken : takeBytes? (ofLittleEndian [low, high]) bytes with
      | none => none
      | some (block, bytes) =>
          if isLast = 1 then some (block, bytes)
          else (inflate? bytes).map fun (content, rest) => (block ++ content, rest)
  | _ => none
termination_by bytes => bytes.length
decreasing_by
  have := length_of_takeBytes? _taken
  simp only [List.length_cons]
  omega

/-- The header of a stored block, the first byte apart, is read as the length of the
block. -/
theorem inflate?_block (isLast : UInt8) {block : List UInt8} (fits : block.length ≤ 0xFFFF)
    (rest : List UInt8) :
    inflate? (isLast :: littleEndian 2 block.length ++
        littleEndian 2 (0xFFFF - block.length) ++ block ++ rest) =
      if isLast = 1 then some (block, rest)
      else (inflate? rest).map fun (content, rest) => (block ++ content, rest) := by
  have size_eq : ofLittleEndian (littleEndian 2 block.length) = block.length :=
    ofLittleEndian_littleEndian (Nat.lt_succ_of_le fits)
  have taken : takeBytes? (ofLittleEndian (littleEndian 2 block.length)) (block ++ rest) =
      some (block, rest) := takeBytes?_append size_eq.symm rest
  simp only [littleEndian, List.cons_append, List.nil_append] at taken ⊢
  rw [inflate?]
  split
  · next untaken => rw [taken] at untaken; cases untaken
  · next found => rw [taken] at found; cases found; rfl

theorem inflate?_storedBlocks {count : Nat} {content : List UInt8}
    (enough : 0xFFFF * count ≤ content.length)
    (fits : content.length ≤ 0xFFFF * (count + 1)) (rest : List UInt8) :
    inflate? (storedBlocks count content ++ rest) = some (content, rest) := by
  induction count generalizing content with
  | zero =>
      rw [storedBlocks, inflate?_block 1 (by omega), if_pos rfl]
  | succ count ih =>
      have block_length : (content.take 0xFFFF).length = 0xFFFF := by
        rw [List.length_take]
        omega
      have read := inflate?_block 0 (Nat.le_of_eq block_length)
        (storedBlocks count (content.drop 0xFFFF) ++ rest)
      rw [block_length, if_neg (by decide), ih] at read
      · rw [storedBlocks, List.append_assoc]
        simpa using read
      · rw [List.length_drop]
        omega
      · rw [List.length_drop]
        omega

theorem length_le_of_inflate? {bytes content rest : List UInt8}
    (read : inflate? bytes = some (content, rest)) : rest.length ≤ bytes.length := by
  fun_induction inflate? bytes generalizing content with
  | case1 => cases read
  | case2 low high first second bytes block after taken =>
      cases read
      have := length_of_takeBytes? taken
      simp only [List.length_cons]
      omega
  | case3 isLast low high first second bytes block after taken notLast ih =>
      obtain ⟨⟨content, rest⟩, read, same⟩ := Option.map_eq_some_iff.mp read
      cases same
      have := length_of_takeBytes? taken
      have := ih read
      simp only [List.length_cons]
      omega
  | case4 => cases read

/-- A stream is read to its end, whatever comes behind it. -/
theorem inflate?_deflate (content rest : List UInt8) :
    inflate? (deflate content ++ rest) = some (content, rest) := by
  apply inflate?_storedBlocks
  · omega
  · omega

/-! ## Files -/

/-- The file behind a header at the front of some bytes, without the signature, and
the rest. -/
def readFile? (bytes : List UInt8) : Option (ArchiveEntry × List UInt8) := do
  let (_, bytes) ← takeBytes? 10 bytes
  let (checksum, bytes) ← takeBytes? 4 bytes
  let (_, bytes) ← takeBytes? 8 bytes
  let (length, bytes) ← takeBytes? 2 bytes
  let (_, bytes) ← takeBytes? 2 bytes
  let (path, bytes) ← takeBytes? (ofLittleEndian length) bytes
  let path ← Text.ofBytes? path
  let (content, bytes) ← inflate? bytes
  if (Checksum.crc32 content).toNat = ofLittleEndian checksum then
    some (⟨path, content⟩, bytes)
  else none

theorem length_le_of_readFile? {bytes rest : List UInt8} {entry : ArchiveEntry}
    (read : readFile? bytes = some (entry, rest)) : rest.length ≤ bytes.length := by
  simp only [readFile?, Option.bind_eq_bind, Option.bind_eq_some_iff, Prod.exists] at read
  obtain ⟨_, _, first, _, _, second, _, _, third, _, _, fourth, _, _, fifth, _, _, sixth, _, _,
    _, _, stream, done⟩ := read
  split at done
  · cases done
    have := length_of_takeBytes? first
    have := length_of_takeBytes? second
    have := length_of_takeBytes? third
    have := length_of_takeBytes? fourth
    have := length_of_takeBytes? fifth
    have := length_of_takeBytes? sixth
    have := length_le_of_inflate? stream
    omega
  · cases done

/-- What is read of a header, in the places where it is read. -/
theorem exists_commonHeader_eq (path content stream : List UInt8) :
    ∃ versions sizes, versions.length = 10 ∧ sizes.length = 8 ∧
      commonHeader path content stream =
        versions ++ (littleEndian 4 (Checksum.crc32 content).toNat ++
          (sizes ++ (littleEndian 2 path.length ++ littleEndian 2 0))) := by
  refine ⟨littleEndian 2 20 ++ (littleEndian 2 (if path.all (· < 0x80) then 0 else 0x800) ++
      (littleEndian 2 methodCode ++ (littleEndian 2 timeCode ++ littleEndian 2 dateCode))),
    littleEndian 4 stream.length ++ littleEndian 4 content.length, ?_, ?_, ?_⟩
  · simp
  · simp
  · simp only [commonHeader, List.append_assoc]

theorem readFile?_localRecord {entry : ArchiveEntry}
    (fits : (Text.toBytes entry.path).length ≤ nameLimit) (rest : List UInt8) :
    ∃ bytes, localRecord entry ++ rest = littleEndian 4 0x04034B50 ++ bytes ∧
      readFile? bytes = some (entry, rest) := by
  obtain ⟨versions, sizes, versions_length, sizes_length, header_eq⟩ :=
    exists_commonHeader_eq (Text.toBytes entry.path) entry.content (deflate entry.content)
  have length_eq : ofLittleEndian (littleEndian 2 (Text.toBytes entry.path).length) =
      (Text.toBytes entry.path).length :=
    ofLittleEndian_littleEndian (Nat.lt_succ_of_le fits)
  have checksum_eq : ofLittleEndian (littleEndian 4 (Checksum.crc32 entry.content).toNat) =
      (Checksum.crc32 entry.content).toNat :=
    ofLittleEndian_littleEndian (Checksum.crc32 entry.content).toNat_lt
  refine ⟨commonHeader (Text.toBytes entry.path) entry.content (deflate entry.content) ++
    (Text.toBytes entry.path ++ (deflate entry.content ++ rest)), ?_, ?_⟩
  · simp only [localRecord, List.append_assoc]
  · simp only [header_eq, List.append_assoc, readFile?, takeBytes?_append versions_length,
      takeBytes?_append sizes_length, takeBytes?_append (length_littleEndian _ _),
      takeBytes?_append length_eq.symm, Text.ofBytes?_toBytes, inflate?_deflate, checksum_eq,
      Option.bind_eq_bind, Option.bind_some, if_true]

/-! ## Archives -/

/-- The files at the front of some bytes, as long as each of them has the signature of
a file. -/
def readFiles? (bytes : List UInt8) : Option (List ArchiveEntry) :=
  match _taken : takeBytes? 4 bytes with
  | none => none
  | some (signature, bytes) =>
      if signature = littleEndian 4 0x04034B50 then
        match _read : readFile? bytes with
        | none => none
        | some (entry, bytes) => (readFiles? bytes).map (entry :: ·)
      else some []
termination_by bytes.length
decreasing_by
  have := length_of_takeBytes? _taken
  have := length_le_of_readFile? _read
  omega

theorem readFiles?_localRecord {entry : ArchiveEntry}
    (fits : (Text.toBytes entry.path).length ≤ nameLimit) (rest : List UInt8) :
    readFiles? (localRecord entry ++ rest) = (readFiles? rest).map (entry :: ·) := by
  obtain ⟨bytes, record_eq, read⟩ := readFile?_localRecord fits rest
  have taken := takeBytes?_append (length_littleEndian 4 0x04034B50) bytes
  rw [← record_eq] at taken
  rw [readFiles?]
  split
  · next untaken => rw [taken] at untaken; cases untaken
  · next found =>
      rw [taken] at found
      cases found
      rw [if_pos rfl]
      split
      · next unread => rw [read] at unread; cases unread
      · next found => rw [read] at found; cases found; rfl

/-- Files end where another signature stands. -/
theorem readFiles?_of_signature {signature : List UInt8} (length_eq : signature.length = 4)
    (other : signature ≠ littleEndian 4 0x04034B50) (rest : List UInt8) :
    readFiles? (signature ++ rest) = some [] := by
  have taken := takeBytes?_append length_eq rest
  rw [readFiles?]
  split
  · next untaken => rw [taken] at untaken; cases untaken
  · next found =>
      rw [taken] at found
      cases found
      rw [if_neg other]

theorem readFiles?_records {entries : List ArchiveEntry}
    (fit : ∀ entry ∈ entries, (Text.toBytes entry.path).length ≤ nameLimit) (offset : Nat)
    {rest : List UInt8} (ends : readFiles? rest = some []) :
    readFiles? ((records offset entries).1 ++ rest) = some entries := by
  induction entries generalizing offset with
  | nil => simpa [records] using ends
  | cons entry entries ih =>
      obtain ⟨fits, fit⟩ := List.forall_mem_cons.mp fit
      rw [records, List.append_assoc, readFiles?_localRecord fits, ih fit, Option.map_some]

/-- The files of an archive can be read from its bytes. -/
theorem readFiles?_encode {archive : Archive}
    (fit : ∀ path ∈ archive.paths, (Text.toBytes path).length ≤ nameLimit) :
    readFiles? archive.encode = some archive.entries := by
  have fitEntries : ∀ entry ∈ archive.entries, (Text.toBytes entry.path).length ≤ nameLimit := by
    intro entry member
    exact fit _ (List.mem_map_of_mem member)
  rw [encode]
  simp only [List.append_assoc]
  apply readFiles?_records fitEntries
  cases archive.entries with
  | nil =>
      rw [records, List.nil_append]
      exact readFiles?_of_signature (length_littleEndian 4 _) (by decide) _
  | cons entry entries =>
      simp only [records, directoryRecord, List.append_assoc]
      exact readFiles?_of_signature (length_littleEndian 4 _) (by decide) _

end Scaffold.Archive
