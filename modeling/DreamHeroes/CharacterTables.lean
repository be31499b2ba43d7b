import DreamHeroes.ByteWords
import DreamHeroes.Substitutions

/- The character tables of utilities.cpp: letters and digits are replaced by letters and digits,
   in one of fifty ways. -/
namespace CharacterTables

open ByteWords Substitutions

def characterOriginalTable : Bytes :=
  (['a', 'b', 'c', 'd', 'e', 'f', 'g', 'h', 'i', 'j', 'k', 'l', 'm', 'n', 'o', 'p', 'q', 'r', 's',
     't', 'u', 'v', 'w', 'x', 'y', 'z', 'A', 'B', 'C', 'D', 'E', 'F', 'G', 'H', 'I', 'J', 'K', 'L',
     'M', 'N', 'O', 'P', 'Q', 'R', 'S', 'T', 'U', 'V', 'W', 'X', 'Y', 'Z', '0', '1', '2', '3', '4',
     '5', '6', '7', '8', '9']).map Char.toUInt8

/- The lines of the literal. -/
def characterEncryptLines : List (List Char) := [
  ['h', '2', 'O', 'X', 'A', 'z', 'K', '4', 'y', 'm', '3', 'E', 'F', 'w', 'J', '5', 'G', 'k', '7',
   'j', 'C', 'e', 'R', 'S', '8', 'D', 'c', 'Y', 'M', 'I', 'P', 'U', 'Q', 'Z', 'H', 'l', 'q', '1',
   'o', 'i', 'N', 'a', '6', 'V', 'g', 't', 'f', 'r', 'x', 'L', 'v', 's', 'n', '0', 'u', 'T', 'd',
   'B', '9', 'p', 'b', 'W'],
  ['F', '3', '7', 'V', 'K', 'Z', 'c', 'U', 'J', 'd', 'N', 'p', 'g', 'l', 'j', 'B', 'n', 'T', 'G',
   '1', 'S', 'z', 'W', 'L', 'Y', 'O', 's', '4', '8', 'v', 'R', 'u', 't', 'k', 'P', 'X', 'D', 'y',
   '9', 'i', 'M', 'r', '0', 'H', '5', 'm', 'h', 'Q', 'e', 'x', 'o', 'a', 'b', 'I', '6', 'f', 'A',
   'E', 'q', '2', 'w', 'C'],
  ['z', 'v', 'F', 'q', 'e', 'h', 'Q', 'w', 'J', 'B', '9', '4', 'A', 'r', 's', 'E', '5', '1', 'N',
   'L', '8', 'f', 'x', 'b', 't', 'S', 'P', 'G', 'c', '0', 'K', 'O', 'k', 'I', 'Y', 'y', 'l', 'U',
   '6', '7', 'D', 'o', 'd', 'H', '2', 'M', 'C', 'n', 'V', 'p', 'g', 'R', 'W', 'i', 'a', 'Z', 'j',
   'T', 'X', 'm', 'u', '3'],
  ['X', '3', 'R', 'Y', 'H', 'z', 'i', 'S', '4', 'J', 'Q', '6', 'o', 'g', 'L', 's', 'N', 'I', 'p',
   'j', 'P', 'K', '5', 'x', 'd', 'U', 'l', 'V', '2', '7', 'O', 't', 'u', 'c', '9', '1', 'C', 'a',
   'D', 'b', 'v', 'e', 'y', 'Z', '0', 'T', 'B', '8', 'W', 'f', 'F', 'A', 'w', 'n', 'h', 'E', 'G',
   'm', 'M', 'r', 'k', 'q'],
  ['z', 'Q', '9', 'g', 't', 'd', 'p', 'A', 'F', 'l', 'b', 'I', '7', 'O', 'x', 'n', 'k', 'r', 'G',
   '0', '6', 'V', 's', 'J', 'h', 'Y', 'c', 'T', 'X', 'u', 'W', 'Z', 'D', '8', '4', 'B', 'q', '5',
   'R', '1', 'f', 'j', 'e', 'S', '2', 'H', 'L', 'v', 'm', 'K', 'y', 'w', 'E', 'o', 'C', 'i', '3',
   'M', 'N', 'a', 'P', 'U'],
  ['u', 'H', 'P', 't', '1', '2', 'g', 'U', '3', 'd', 'K', 'f', '8', 'W', 'm', 'p', 'E', 'R', 'Y',
   'h', 'r', 'C', 'j', 'I', 'n', 'A', '6', 'a', 'L', 'F', 'N', '9', 'J', 'y', 'M', 'l', '0', 'Z',
   'Q', 'v', 'q', 'b', 'k', 'T', 'z', 'o', 'B', '7', '5', 'e', 's', '4', 'w', 'x', 'D', 'X', 'i',
   'G', 'V', 'O', 'S', 'c'],
  ['i', 'q', 'b', 'Y', 't', 'X', 'W', 'r', 'l', 'p', '6', '5', 'R', 'c', 'S', '0', 'g', 'a', '3',
   'n', 'y', 'U', 'Z', 'o', 'v', 'H', 'j', 'z', 'E', '1', 'e', 'f', 'B', 'D', 'I', '9', 'T', 'C',
   'L', '2', '7', 'N', 'K', '4', 'V', 'w', 'G', 'd', 'm', 'M', 'h', 's', 'k', 'P', 'u', 'J', 'x',
   'Q', 'F', 'A', '8', 'O'],
  ['E', 'S', 'm', 'g', 'f', 'l', 'D', 'u', '1', '9', 'q', 'U', 'j', 'Z', 'L', 'X', 'n', 'i', 'p',
   'z', 'G', '5', 'y', 'a', 'k', 'C', 'M', 'V', 'o', 'I', 'r', '6', 'Q', 'c', 'R', 'H', 'v', 'h',
   'W', 't', '8', 'O', 'x', 'B', 'd', 'Y', 'A', '7', '0', 'b', 'T', 's', 'P', '2', '4', '3', 'F',
   'e', 'K', 'J', 'N', 'w'],
  ['D', '6', 'X', 'd', 'K', 'b', 'c', '8', 'm', 'x', 'v', 'Y', 'u', 'z', 'G', 'A', 'e', 'W', 't',
   'f', 'h', '2', 'i', 'E', '4', '5', 'P', 'U', 'n', 'B', 'o', 'L', 'g', '3', 'H', 'C', 'R', 'J',
   'j', 'T', '9', 'q', 'w', 'k', 's', 'F', 'S', 'V', 'Z', 'p', 'Q', '1', 'M', 'I', '7', 'y', 'O',
   'r', 'N', '0', 'a', 'l'],
  ['g', 'w', '4', 'H', 'i', '1', '3', 'I', 'L', 'u', 'Z', 't', 'n', 'm', '0', '5', 'p', 'F', 'o',
   'T', 'z', '9', 'M', 'B', 'y', '8', 'R', 'C', 'f', 'V', 'J', 'N', 'j', 'b', '2', 'S', 'O', 'q',
   'E', 'c', 'U', 'r', 'P', 'x', 'v', 'G', 'A', '7', 'e', 'Y', 'l', 'd', 'D', 'W', 'X', 'Q', 'K',
   '6', 'h', 's', 'k', 'a'],
  ['K', '4', 'B', 'g', 'H', 'U', 'h', 'P', 'Q', 'J', 'Y', 't', '1', 'L', 'r', 'z', '9', '7', 'D',
   'C', 'u', 'm', 'w', 'f', 'N', 'c', 'p', '8', 'W', 'V', 'S', 'y', 'M', 'G', 'e', 'X', '3', 'd',
   'A', 'Z', 'i', 'x', 'b', 'T', 'O', 'k', 'n', 'l', 'F', '5', 'v', '6', 'a', '0', 's', 'I', 'j',
   'E', 'q', 'R', 'o', '2'],
  ['P', 'U', 'p', 'G', 'b', 'X', 'W', 'A', '6', 'N', 'n', 'm', '4', 'K', 'Y', 'u', '9', 't', '1',
   'T', '5', 'z', 'h', 'c', 'V', 'q', 'Q', 'i', 'D', 'j', 'd', 'E', 'H', 'L', 'J', '0', 'O', 'v',
   'Z', 'x', 'w', 'g', 's', 'o', 'B', 'k', 'I', 'r', 'l', '8', '2', '3', 'y', 'M', 'a', 'C', 'e',
   'F', 'R', '7', 'S', 'f'],
  ['i', 'B', 'q', 'C', 't', '1', 'k', 'z', 'f', 'a', 'y', 'c', '2', 'o', 'e', 'r', 'v', 'T', 'P',
   'E', 'x', 'w', '9', 'Z', 'h', 'I', 'J', 'p', 'u', 'X', 'Y', '6', '3', 'M', 'N', 'K', 'L', 'Q',
   'R', 'n', 'm', 'V', 's', 'H', '0', 'b', '5', 'W', '7', 'j', 'D', 'G', 'F', 'U', 'l', '8', 'A',
   'd', 'S', 'g', 'O', '4'],
  ['4', 'O', 'L', 'n', 'C', 'q', 'd', 'Z', 'b', 'y', 'f', 'E', 'x', 'm', 'X', '6', 'a', '0', 'H',
   'v', 't', 'r', 'p', '9', 'A', '8', 'T', 'G', 'k', 'z', 'Q', 'W', 'R', 'P', 'o', 'J', 'M', 'V',
   'i', 'K', '1', 'I', '2', 'g', 'h', 'N', 'l', 'S', 'D', 'e', 'u', 'B', '7', 'F', 'j', 'w', 'c',
   'U', 's', '5', 'Y', '3'],
  ['B', 'I', 'Y', 'r', 'X', '9', '6', 'q', 'V', 'x', '3', 'f', 'w', 'i', '5', 'A', '2', 'T', 'l',
   'N', '4', 'Z', 'K', 'D', 'n', 'E', 'R', 'C', 't', '1', 'b', 'y', 'k', '0', 'j', 'J', 's', '8',
   'G', 'W', 'L', '7', 'S', 'c', 'h', 'g', 'p', 'O', 'F', 'H', 'P', 'Q', 'v', 'm', 'o', 'e', 'M',
   'd', 'u', 'a', 'z', 'U'],
  ['3', 'v', 'V', 'p', 'h', 'n', 'y', 'J', '4', 'w', 'Q', '0', 't', 'O', '5', 'R', '9', '2', 'Y',
   'u', 'A', 'z', 'b', 'D', 'H', 'l', 'C', '8', 'f', 'o', 'g', 'q', 'K', 'G', '6', 'S', 'i', 'c',
   'B', 'j', 'm', 'Z', 'a', 'W', 'T', 'U', 'M', 'P', '7', 'x', 'e', 'E', 'L', 's', 'N', 'k', '1',
   'X', 'I', 'F', 'r', 'd'],
  ['d', 'r', 'O', 'V', 'Y', 'J', 'g', '6', 'A', 'e', 'z', 'n', 'i', 'v', 'K', '8', 'B', 't', 'W',
   '1', 'p', 'q', 'G', 'u', 'T', 'F', 'X', 'a', 'I', 'k', 'b', 'h', 'U', 'x', 'L', 'o', 'R', 'y',
   '4', '3', 'P', 'Z', '9', 'l', 'C', '5', 'w', 'Q', 'c', 'D', 'N', 'H', 'S', '2', 's', 'E', 'M',
   'f', '7', 'm', 'j', '0'],
  ['X', 'h', 'P', 'S', '2', 'Q', 'w', 'y', 'U', 'Z', 'i', 'H', 'W', 'G', '8', 'e', 'v', 'L', 's',
   'b', 'l', 'x', 'F', 'c', 'j', 'J', 'r', 'd', 'R', 'O', 'A', 'm', 'N', 'q', '7', 'V', 'k', '0',
   '9', '1', 'D', 'K', 'z', 'T', '5', 'g', 'E', 'o', 'I', '6', 't', 'p', '4', 'B', 'C', 'n', 'Y',
   'M', 'u', 'a', '3', 'f'],
  ['U', 'v', 'g', 'N', 'm', 'K', 'q', 'M', 'T', 'F', '4', 'W', 'z', 'A', 'c', 'a', 'j', '6', 'O',
   'P', '1', '5', 'r', 'H', 'G', 'J', 'V', '7', 'S', '3', 'l', 'n', '0', 'I', 'Z', 'B', 'Y', 'C',
   'e', 'L', '8', 'p', 'R', 's', 'D', 'E', 'y', 'Q', 'k', '2', 'f', 'b', 'h', 'i', 'X', 'x', 'u',
   'd', 't', 'o', '9', 'w'],
  ['8', 'y', '7', 'u', '3', 't', 'J', 'D', 'Y', 'R', 'x', 'e', 'd', 'K', 'm', 'H', '0', 'W', 'V',
   'b', 'L', '9', 'q', 'l', 'p', 'G', 'U', 'r', 'v', '2', 'C', 'T', 'j', 'Q', 'o', 'c', 'I', 'n',
   'A', 'Z', 'i', 'h', 'X', 'O', 'B', '4', 'S', 'a', 'w', 'N', '6', 'P', '1', 'f', 'M', '5', 'F',
   'g', 'z', 'k', 'E', 's'],
  ['y', '6', 'v', 'p', 'T', 'g', 'f', 'k', 'w', 'L', 'e', 'B', 'Y', '2', '8', 'h', 'l', 'D', 'j',
   'E', 'q', 'n', 'K', 's', 'V', 'H', 'b', 't', 'u', 'o', 'Q', 'r', 'M', 'I', 'm', 'X', '7', '9',
   'x', 'A', 'Z', 'S', 'a', '0', 'J', 'i', 'F', 'U', 'O', 'c', 'R', '3', 'G', 'N', 'd', '1', '4',
   'P', 'C', 'W', '5', 'z'],
  ['c', '4', 'A', 'B', 's', 'W', 'N', 'd', 'Y', 'E', 'F', '9', 'l', 'O', 'D', 'p', 'g', 'f', 'z',
   'Q', 'x', 'k', 'P', 'o', '3', 'm', 'U', 'H', 'e', 'i', 'a', '0', 'X', 'r', 't', 'v', 'n', 'J',
   '7', 'M', 'T', 'q', 'j', '5', 'G', '8', 'u', 'S', '6', 'b', 'V', 'w', 'C', 'I', '2', 'y', 'Z',
   'L', 'K', '1', 'h', 'R'],
  ['D', 'z', '1', 'r', 'L', '3', 'U', 'g', 'K', 'x', 'k', 'v', 'q', '7', 'Q', 'p', '2', '8', '9',
   'X', 'b', 'N', 'V', 'T', 'c', 'H', 'l', 'f', 'W', 'd', 'Y', 'I', 'B', 's', 'R', 'j', 'n', 'G',
   '6', 'C', 'E', 'i', 'S', 'F', 'o', 'J', 't', 'A', '5', 'y', 'a', 'e', 'Z', 'u', 'P', 'h', 'O',
   '0', 'm', '4', 'M', 'w'],
  ['g', 'F', 'A', 'O', 'L', 'Y', 'p', 'S', 'm', 'K', 'N', 'Q', '0', 'B', 'J', '2', '6', 'l', '8',
   'y', 'k', 'T', 'u', 'b', 'w', 'U', 'n', 'M', 'Z', 'X', 'C', 'I', 'H', '1', 'f', 'D', 'W', 'q',
   'a', 'i', 'd', 'z', 'E', '5', '9', '3', 'V', 'x', 'j', 't', 'P', 'R', 'o', 's', '4', 'r', 'G',
   'h', '7', 'v', 'e', 'c'],
  ['N', 'r', 'z', 'A', 'm', 'x', 'f', 'B', 'W', 'q', '6', 'D', 'y', '3', 'H', 'J', 'h', 'n', 'L',
   '7', 'u', 'b', 'R', 'T', '9', '1', 'M', 'O', 't', 'p', 'c', 'o', 'P', 'G', '2', 'l', 'g', 'F',
   'C', 'E', 'w', 'i', 'I', 'V', 'a', 'Y', 'v', 'e', 'k', 's', 'S', 'U', '0', '8', '5', 'K', '4',
   'j', 'Z', 'd', 'X', 'Q'],
  ['b', 'm', 'f', '6', 'k', 'l', '5', 'C', 'y', 'E', '9', 'r', '2', 'u', 'T', 'o', 'L', '0', 'B',
   'z', 'd', '3', 'V', 't', 'q', 'n', '1', 'Z', 'h', 'p', 'g', 'U', 'M', 'X', 'a', 'K', 'P', 'S',
   'A', 'R', 'H', 'c', 'i', 'O', 'w', 'Q', 'G', '7', '8', 'Y', 'W', 'I', 'v', 'J', 's', 'D', 'j',
   '4', 'x', 'F', 'N', 'e'],
  ['4', 'Q', 'w', 'r', 'b', 'u', 'f', 't', 'a', 'd', '9', 'O', 'Z', '0', '7', 'R', 'W', 'T', 'e',
   'n', 'j', 'h', 'A', '3', 'B', 'I', 'c', 'K', '2', 'q', 'E', 'v', '8', 'S', 'J', 'F', 'L', 'X',
   'N', 'G', '1', '5', 'P', 'i', 'V', '6', 'z', 'g', 'y', 'k', 'm', 'l', 'x', 'o', 'D', 'H', 'p',
   'U', 'Y', 'M', 'C', 's'],
  ['Y', 'm', 'o', 'A', 'F', 'P', '3', 'D', 'w', '0', 'Z', 'R', 'c', 'M', '7', '2', '4', 'x', 'J',
   '9', 'g', 'z', 'p', '8', 'G', 'j', 'i', 'H', 'l', 'X', 'O', 'k', 'K', 'E', 't', 'N', 'f', 'q',
   'n', 'U', 'S', 'r', '6', 'b', 'L', 's', 'Q', '5', 'u', '1', 'I', 'C', 'B', 'T', 'V', 'y', 'h',
   'v', 'd', 'e', 'a', 'W'],
  ['6', 'f', 'w', '3', 'K', 'n', 'i', 'q', 'I', 'x', '1', 'P', 'R', 't', 'O', 'F', '0', 'U', '2',
   'C', 'v', 'b', 'J', 'T', 'Q', 'e', 'h', 'z', 'M', 'X', 'c', 'D', 'Z', 'V', 'y', 'a', 'u', '5',
   'm', 'G', 'p', 's', 'E', 'd', 'W', '9', 'l', '7', 'B', 'H', 'S', 'N', 'o', 'r', '8', 'k', 'L',
   'Y', 'A', '4', 'g', 'j'],
  ['u', 'C', 'I', 'T', 'P', 'p', '0', 'D', 'n', 'b', 'Q', 'r', 'U', 'l', 'g', 'R', 'h', 'S', '4',
   '7', 'X', '3', 'd', 'B', '1', 'K', 'c', 'E', 'e', 'G', 'M', 'H', 'y', 'W', 'A', 'N', 'f', 'i',
   'V', '2', 'O', 'm', 'Y', 'v', '6', 't', 'x', 'L', 'F', 'w', 'k', 'z', '8', 'q', 'a', '5', 'o',
   's', 'j', 'Z', '9', 'J'],
  ['N', '8', 'm', 'r', 'G', 'q', 'e', '7', 'J', 'S', 'g', 'U', 'E', '1', 'Z', 'V', 'k', 'o', 'z',
   'K', 'D', 'M', 'j', 'P', 'Q', 'w', 'T', 'u', '9', '2', 'B', 't', 'O', 'F', 'f', '0', 'n', 'b',
   'a', 'x', 'A', 'c', 'X', 'H', '5', 's', 'i', 'L', 'd', 'v', 'y', 'Y', 'C', '6', 'h', 'l', '3',
   'I', 'W', 'R', '4', 'p'],
  ['r', '1', 'X', 'd', 'R', 'E', 'Y', 'S', 'g', 'W', 'o', 'T', 'h', 'C', '4', 'M', 'j', 'u', 'J',
   'I', '3', 'b', 'U', 'l', 'f', 'L', 'm', 'a', 'k', '2', 'V', 'N', 'v', 'c', '5', 's', 'z', '9',
   'Z', '0', 't', 'p', 'B', 'G', '8', 'n', 'w', 'Q', 'F', 'K', 'H', '7', 'e', 'A', 'P', 'q', 'D',
   'x', 'i', '6', 'O', 'y'],
  ['k', 'C', 'm', 'I', 'u', 'V', 'y', 'o', 'H', 'r', 'x', 'g', 'd', 'b', 'A', 'Z', 'i', 'S', '1',
   't', 'G', 'p', 'q', 'J', 'T', 'K', '4', 'z', 'h', 'W', 's', 'U', 'L', 'n', 'v', 'B', '7', 'l',
   '3', 'M', 'j', '6', 'Y', 'Q', 'c', 'P', 'N', 'E', '8', '5', 'O', 'R', 'w', 'D', '0', '2', 'F',
   'e', 'f', 'a', 'X', '9'],
  ['n', '7', 'O', 'q', 'F', 'V', 'P', 'E', 'W', '5', 'K', 'G', 'c', 't', 'b', 'U', 'X', 'k', '8',
   'C', 'y', '4', 'Y', 'a', 'z', 'I', '1', 'Z', 'w', 'u', '9', 'd', 'p', 's', 'f', 'o', 'j', 'J',
   'B', 'S', '0', 'g', '3', 'H', 'Q', 'M', 'v', 'e', 'l', 'r', 'm', 'A', 'T', '2', 'L', 'x', '6',
   'i', 'D', 'N', 'R', 'h'],
  ['2', 'P', 'D', 'o', 'G', '6', 'k', 'a', 'z', 'e', 'p', 'c', 'R', 'A', 'V', 'g', 'x', 'S', 'F',
   'v', 'B', 'W', 'N', 'L', 'y', 'm', '9', '7', 'K', 'i', 'd', 'r', 'X', 'n', 'Y', 'Z', '8', '5',
   '1', 'O', 'j', '3', 'M', '4', 'C', 'U', 'E', 's', 'l', 'Q', 't', 'H', 'u', 'w', 'q', 'b', 'h',
   'T', 'I', 'f', 'J', '0'],
  ['j', 'C', 'l', 'K', 'N', '4', 'n', '7', '1', 'F', 'T', 'X', '9', 'p', 'e', 'H', 'D', 'b', 't',
   'f', 'U', 'Q', '8', '2', 'g', 'S', 'O', '5', 'r', 'q', 'Y', 'w', 'A', '3', '6', 'V', '0', 'P',
   'Z', 'd', 'z', 'W', 'J', 'h', 'L', 'v', 'R', 'y', 'a', 'o', 'm', 'E', 'k', 'G', 'B', 'i', 'I',
   'M', 'u', 'x', 's', 'c'],
  ['n', '3', 'u', '0', 'a', 'S', 'H', 'W', 'A', 'e', 'X', 'T', 't', 'v', 'l', '2', 'Y', 'f', 'K',
   'r', '7', 'B', 'h', 'z', 'w', 'F', '1', '5', 'q', 'U', 'Q', '4', 'G', 'I', 'M', '8', 'P', 'b',
   'N', 'J', 's', 'R', 'i', 'g', 'd', 'j', 'Z', 'y', 'O', 'D', '6', 'x', '9', 'E', 'm', 'V', 'c',
   'L', 'p', 'k', 'C', 'o'],
  ['z', 'r', 'a', '0', 'y', 'A', 'v', 'D', 'm', '4', 'j', 'B', '2', 'x', '3', 'p', 'N', 'K', 'q',
   'R', '1', 'f', '8', 'C', '6', 'V', 'E', 'w', 'S', 'k', 't', 'g', 's', '5', 'L', 'l', 'u', 'F',
   'd', 'M', 'o', 'Z', 'b', 'h', 'P', 'I', '7', 'G', 'U', 'c', 'H', 'W', 'n', 'X', '9', 'T', 'Y',
   'i', 'e', 'J', 'O', 'Q'],
  ['4', 'u', 'M', '6', 'o', '2', 'X', 'k', 'T', 'w', 'q', 'F', 'C', '5', 'Z', 'l', 'Y', 'e', '8',
   'n', 'z', 'm', 'i', 'v', 'H', '9', 'O', 'd', 'W', 'L', 'D', 'x', 'I', 'R', 'f', 'J', 'Q', 'a',
   'r', '0', 'N', 'P', 'p', 'c', 'S', 'U', 'y', '3', 'g', 'E', 'A', 'V', '7', 'K', 't', 'h', 's',
   'j', 'B', '1', 'b', 'G'],
  ['V', 'N', 'A', 'z', 'w', 'y', 'i', 'G', 'P', '5', '2', 'S', 'I', 'm', 'Y', 's', 'B', 'n', 'p',
   'Q', 'v', 't', 'F', 'c', 'J', 'C', 'u', '8', 'k', 'r', 'o', 'd', '3', 'X', '6', '1', '4', 'T',
   'E', 'Z', 'K', '0', 'q', 'f', 'a', 'e', 'x', 'L', 'H', 'b', 'R', '7', 'U', 'j', 'M', '9', 'l',
   'D', 'O', 'g', 'h', 'W'],
  ['A', 'q', 'M', 'X', 'F', 'e', 'v', 'w', 'O', 'Z', 'y', 'g', 'I', 'Y', 'R', 'N', 'i', 'D', '7',
   '0', 'k', 'h', 'd', 'c', '6', 'J', 'L', 'U', 'B', '5', 't', 'C', 'x', 'b', '9', 'E', 'P', 'r',
   '4', 'G', 'l', 'z', 'o', '1', 'Q', '8', 'f', '2', 's', '3', 'u', 'K', 'T', 'a', 'V', 'W', 'n',
   'S', 'H', 'm', 'p', 'j'],
  ['Y', '1', 'Z', 'd', 'O', 'P', 'e', 'T', 'g', '2', 'j', 'n', 'b', 'R', '6', 'L', 'H', '0', 'q',
   'X', 'u', 'p', 'B', 'f', 'l', 'F', 'w', 'M', 's', 'G', 'E', 'r', 'x', 'o', 'i', 'a', 'C', '3',
   't', '4', 'm', 'k', 'v', '7', 'D', 'Q', '5', 'h', 'U', 'S', 'J', 'z', 'I', '9', 'V', 'A', 'N',
   '8', 'y', 'W', 'c', 'K'],
  ['D', 'v', 'H', 'x', 'q', '0', 'o', 'S', '4', 'w', '5', 'l', 'b', '9', 'p', 'a', 'u', 'd', 'R',
   '3', 'Y', 'k', 't', 'P', 'C', 'F', 'G', 'O', 'K', 'z', 'B', 'g', 'r', '1', 'T', 'M', 'c', 'f',
   '8', 'V', 'h', 'W', 'L', 'A', 's', 'y', '2', 'i', 'Z', 'j', 'U', '6', 'e', 'n', 'J', 'X', '7',
   'm', 'N', 'I', 'E', 'Q'],
  ['d', 'H', 'V', 'U', 'M', 's', 'K', '1', 'w', 'B', '9', '8', 'P', 'b', 'f', '0', 'j', 'J', 'y',
   'D', 't', 'a', 'C', 'l', 'v', 'c', 'R', '6', 'x', 'G', '7', 'k', 'I', 'T', 'p', 'm', '2', 'E',
   'Z', 'o', 'L', 'X', 'z', '3', 'i', 'g', 'S', 'W', 'n', 'e', 'Q', 'N', 'q', 'r', 'Y', 'O', 'A',
   'F', 'u', '5', 'h', '4'],
  ['D', 'z', 'F', 'b', 'u', '0', 'd', 'e', '6', 'L', 'A', 'J', '5', 'v', 'M', 'B', 'N', 'R', 'Y',
   'Q', 'T', '7', 'a', 'w', 'j', 'f', 'C', 'r', 'K', 'q', 'i', 'y', 'Z', 'H', '8', 'o', 'm', 'I',
   'E', '9', 'U', 'P', 'l', 'S', 'h', 'n', '4', 'O', 'W', 'p', 'c', 'G', '2', 's', 't', '1', 'X',
   'x', 'g', 'V', '3', 'k'],
  ['3', 'B', 'G', 'r', 'h', '7', 'o', 'n', 'L', 'z', 'R', 'j', 'Q', 'e', 'A', 'f', '1', 'T', 'l',
   '9', 'Z', 'O', 'D', 'E', 'W', 'x', 'C', 'Y', 'k', 'b', 'J', 'U', 'u', 'P', '4', 'q', 'N', 'I',
   'y', 'a', 'F', '5', 'V', 'w', '6', 'd', 'H', '2', 'p', 'X', '0', 'v', 't', 'g', '8', 'm', 'i',
   'c', 'M', 'K', 'S', 's'],
  ['N', 'B', 'x', 'X', 'u', 'R', 'I', '1', 'w', '4', 'k', 't', '8', 'J', 'q', '6', 'p', 'O', 'z',
   'm', 'l', '9', 'h', 'A', 'C', 'F', 'Y', 'b', 'o', '2', 'n', 'e', 'v', 'Z', 'a', 'L', '7', 'G',
   'i', 'Q', 'f', 'S', 's', 'y', 'D', 'H', 'P', 'T', 'c', 'K', 'r', '3', 'U', 'j', 'W', 'M', 'd',
   'g', 'V', '5', 'E', '0'],
  ['4', 'x', 'X', 'D', 'b', 'L', 'e', 'm', '7', 'S', 'o', 'a', '3', 'M', 'f', '5', 'r', '0', 'N',
   'u', 'y', 'V', 'W', 'Z', 'p', 'A', 'I', 'c', '2', 'P', 'U', 'h', 'C', '9', 'E', 't', '6', '8',
   'R', 'w', 's', '1', 'Y', 'F', 'T', 'k', 'K', 'J', 'l', 'v', 'H', 'z', 'i', 'g', 'j', 'd', 'B',
   'G', 'Q', 'O', 'q', 'n'],
  ['u', 'P', 'H', 'I', '8', 'h', 'p', 'q', 'Q', 'j', 'G', 't', 'w', 'M', '5', 'k', 'a', 'b', 'L',
   'R', '1', 'O', 'Z', 'd', 'z', '6', 'X', 'F', 'T', 'c', 'f', 'Y', '0', 'v', 'g', 'm', '3', '9',
   'C', 'U', 'D', 'e', 's', 'r', 'K', 'N', '7', 'J', 'V', 'E', '4', 'S', '2', 'n', 'o', 'i', 'W',
   'A', 'l', 'y', 'B', 'x'],
  ['O', 'w', 'g', 'V', 'p', 'x', '2', '9', '0', 'U', 'm', 'c', 's', 'R', 'y', 'l', '8', 'L', 'H',
   'j', '3', 'b', '4', 'P', 'q', 'C', 'h', 'G', 'Y', '6', 'v', 'K', 'n', 'S', 'T', '5', 'i', 'N',
   'f', 'J', 'A', 'D', 'B', '7', 't', 'd', 'a', 'u', 'X', 'z', 'Q', 'I', 'r', 'Z', 'o', 'k', 'e',
   'W', 'F', 'M', '1', 'E']]

def characterEncryptTable : Bytes := characterEncryptLines.flatten.map Char.toUInt8

def tableCount : Nat := 50
def tableSize : Nat := 26 * 2 + 10

/- tables[i].data, which the constructor copies out of the literal. -/
def data (i : Nat) : Bytes := (characterEncryptTable.drop (i * tableSize)).take tableSize

/- std::find of a in src, and the character at its place in dst. -/
def get (src dst : Bytes) (a : UInt8) : UInt8 :=
  match src.idxOf? a with
  | none => 0
  | some p => dst.getD p 0

def encryptGet (data : Bytes) : UInt8 → UInt8 := get characterOriginalTable data

def decryptGet (data : Bytes) : UInt8 → UInt8 := get data characterOriginalTable

/- The loop that both functions run, from one character of the input to the next. -/
def replace (get : UInt8 → UInt8) : Bytes → Bytes → Bytes
  | [], out => out
  | a :: rest, out =>
      let c := get a
      if c = 0 then [] else replace get rest (out ++ [c])

def encryptString (input out : Bytes) (table : UInt32) : Bytes :=
  if table.toNat ≥ tableCount then out else replace (encryptGet (data table.toNat)) input []

def decryptString (input out : Bytes) (table : UInt32) : Bytes :=
  if table.toNat ≥ tableCount then out else replace (decryptGet (data table.toNat)) input []

/-- a-z, A-Z and 0-9. -/
def Alphanumeric (a : UInt8) : Prop :=
  97 ≤ a ∧ a ≤ 122 ∨ 65 ≤ a ∧ a ≤ 90 ∨ 48 ≤ a ∧ a ≤ 57

instance decidableAlphanumeric (a : UInt8) : Decidable (Alphanumeric a) := by
  unfold Alphanumeric
  infer_instance

section Tables

theorem originalTable_codes : characterOriginalTable.map UInt8.toNat =
    List.range' 97 26 ++ List.range' 65 26 ++ List.range' 48 10 := by decide +kernel

/-- Every line has the characters of the original table, each once. -/
theorem encryptLines_codes : ∀ line ∈ characterEncryptLines, line.length = tableSize ∧
    mask (line.map fun c => c.toUInt8.toNat) =
      mask (List.range' 97 26 ++ List.range' 65 26 ++ List.range' 48 10) := by decide +kernel

theorem mem_originalTable {a : UInt8} : a ∈ characterOriginalTable ↔ Alphanumeric a := by
  have codes : a ∈ characterOriginalTable ↔ a.toNat ∈ characterOriginalTable.map UInt8.toNat := by
    rw [List.mem_map_of_injective fun _ _ => UInt8.toNat_inj.mp]
  rw [codes, originalTable_codes]
  simp only [List.mem_append, List.mem_range'_1, Alphanumeric, UInt8.le_iff_toNat_le]
  simp
  omega

theorem codes_nodup :
    (List.range' 97 26 ++ List.range' 65 26 ++ List.range' 48 10).Nodup := by
  simp only [List.nodup_append]
  refine ⟨⟨List.nodup_range', List.nodup_range', ?_⟩, List.nodup_range', ?_⟩
  · intro a upper b lower
    simp only [List.mem_range'_1] at upper lower
    omega
  · intro a letter b digit
    simp only [List.mem_append, List.mem_range'_1] at letter digit
    omega

theorem originalTable_nodup : characterOriginalTable.Nodup := by
  refine List.Nodup.of_map UInt8.toNat ?_
  rw [originalTable_codes]
  exact codes_nodup

theorem data_eq {table : Nat} (below : table < tableCount) :
    ∃ line ∈ characterEncryptLines, data table = line.map Char.toUInt8 := by
  have count : table < characterEncryptLines.length := below
  refine ⟨characterEncryptLines[table], List.getElem_mem count, ?_⟩
  rw [data, characterEncryptTable, List.map_flatten]
  refine slice_flatten ?_ ?_
  · intro row member
    obtain ⟨line, among, rfl⟩ := List.mem_map.mp member
    rw [List.length_map, (encryptLines_codes line among).1]
  · rw [List.getElem?_map, List.getElem?_eq_getElem count]
    rfl

/-- Each of the fifty tables pairs the letters and digits. -/
theorem data_paired {table : Nat} (below : table < tableCount) :
    Paired characterOriginalTable (data table) := by
  obtain ⟨line, among, same⟩ := data_eq below
  obtain ⟨length, codes⟩ := encryptLines_codes line among
  refine ⟨originalTable_nodup, ?_⟩
  rw [← List.map_perm_map_iff fun _ _ => UInt8.toNat_inj.mp, originalTable_codes, same,
    List.map_map]
  refine perm_of_mask codes_nodup ?_ codes
  rw [List.length_map, length]
  rfl

end Tables

section Strings

variable {src dst s out : Bytes} {a : UInt8}

theorem get_eq : get src dst a = (across src dst a).getD 0 := by
  unfold get across
  cases src.idxOf? a with
  | none => rfl
  | some p => exact List.getD_eq_getElem?_getD

/-- The loop stops with nothing where a character has no place in the table. -/
theorem replace_eq (nonzero : 0 ∉ dst) :
    replace (get src dst) s out =
      match acrossAll src dst s with
      | some r => out ++ r
      | none => [] := by
  induction s generalizing out with
  | nil => simp [replace, acrossAll]
  | cons a rest ih =>
    rw [replace, get_eq, acrossAll_cons]
    cases here : across src dst a with
    | none => rfl
    | some b =>
      have some : b ≠ 0 := by
        rintro rfl
        exact nonzero (across_mem here)
      rw [Option.getD_some, if_neg some, ih, Option.bind_some]
      cases acrossAll src dst rest <;> simp

theorem replace_done {r : Bytes} (nonzero : 0 ∉ dst) (found : acrossAll src dst s = some r) :
    replace (get src dst) s [] = r := by
  rw [replace_eq nonzero, found]
  rfl

/-- What a table and its reverse do to a string, whichever way it goes. -/
theorem replace_replace (paired : Paired src dst) (nonzero : 0 ∉ src)
    (known : ∀ a ∈ s, a ∈ src) :
    replace (get dst src) (replace (get src dst) s []) [] = s ∧
      (replace (get src dst) s []).length = s.length := by
  have nonzero' : 0 ∉ dst := mt paired.perm.mem_iff.mpr nonzero
  obtain ⟨r, found⟩ := (acrossAll_isSome paired.perm.length_eq).mpr known
  rw [replace_done nonzero' found]
  exact ⟨replace_done nonzero (acrossAll_symm paired found), acrossAll_length found⟩

theorem replace_other (paired : Paired src dst) (nonzero : 0 ∉ src) (other : ∃ a ∈ s, a ∉ src) :
    replace (get src dst) s [] = [] := by
  have nonzero' : 0 ∉ dst := mt paired.perm.mem_iff.mpr nonzero
  rw [replace_eq nonzero']
  cases found : acrossAll src dst s with
  | none => rfl
  | some r =>
    obtain ⟨a, member, absent⟩ := other
    exact absurd ((acrossAll_isSome paired.perm.length_eq).mp ⟨r, found⟩ a member) absent

end Strings

/-- With the characters of the original table the two functions undo each other and keep the
length; any other character makes both of them return nothing. -/
structure Right (table : UInt32) (s : Bytes) : Prop where
  decrypted : (∀ a ∈ s, Alphanumeric a) → ∀ out out',
    decryptString (encryptString s out table) out' table = s
  encrypted : (∀ a ∈ s, Alphanumeric a) → ∀ out out',
    encryptString (decryptString s out table) out' table = s
  lengths : (∀ a ∈ s, Alphanumeric a) → ∀ out, (encryptString s out table).length = s.length ∧
    (decryptString s out table).length = s.length
  others : (∃ a ∈ s, ¬ Alphanumeric a) → ∀ out, encryptString s out table = [] ∧
    decryptString s out table = []

theorem strings_right (table : UInt32) (below : table < 50) (s : Bytes) : Right table s := by
  have inside : table.toNat < tableCount := below
  have paired := data_paired inside
  have nonzero : 0 ∉ characterOriginalTable := mt mem_originalTable.mp (by decide)
  have nonzero' : 0 ∉ data table.toNat := mt paired.perm.mem_iff.mpr nonzero
  have encrypt : ∀ s out, encryptString s out table =
      replace (get characterOriginalTable (data table.toNat)) s [] :=
    fun s out => if_neg (Nat.not_le.mpr inside)
  have decrypt : ∀ s out, decryptString s out table =
      replace (get (data table.toNat) characterOriginalTable) s [] :=
    fun s out => if_neg (Nat.not_le.mpr inside)
  have known : (∀ a ∈ s, Alphanumeric a) → ∀ a ∈ s, a ∈ characterOriginalTable :=
    fun all a member => mem_originalTable.mpr (all a member)
  have known' : (∀ a ∈ s, Alphanumeric a) → ∀ a ∈ s, a ∈ data table.toNat :=
    fun all a member => paired.perm.mem_iff.mp (known all a member)
  constructor
  · intro all out out'
    rw [encrypt, decrypt]
    exact (replace_replace paired nonzero (known all)).1
  · intro all out out'
    rw [decrypt, encrypt]
    exact (replace_replace paired.symm nonzero' (known' all)).1
  · intro all out
    rw [encrypt, decrypt]
    exact ⟨(replace_replace paired nonzero (known all)).2,
      (replace_replace paired.symm nonzero' (known' all)).2⟩
  · intro ⟨a, member, other⟩ out
    have absent : a ∉ characterOriginalTable := mt mem_originalTable.mp other
    rw [encrypt, decrypt]
    exact ⟨replace_other paired nonzero ⟨a, member, absent⟩,
      replace_other paired.symm nonzero' ⟨a, member, mt paired.perm.mem_iff.mpr absent⟩⟩

theorem strings_right_table_three : Right 3 [97, 90, 48] :=
  strings_right 3 (by decide) [97, 90, 48]

end CharacterTables
