import Mathlib.Algebra.Group.Nat.Defs
import Mathlib.Data.List.GetD
import Mathlib.Logic.Function.Basic
import DreamHeroes.LoopOutcomes
import DreamHeroes.Substitutions

/- sslEncrypt and sslDecrypt of crypt.cpp. A byte is replaced through one of ten tables, which a
   random byte behind the data selects together with the place of the byte. -/
namespace SslCrypt

open LoopOutcomes Substitutions

def dictionary : List (List UInt8) := [
  [0x26, 0xef, 0xf7, 0x44, 0xd6, 0x32, 0xdf, 0x27, 0xa0, 0x3c, 0x74, 0xd0, 0x12, 0xe3, 0xe4, 0x3d,
   0x2d, 0x09, 0x4d, 0x21, 0x33, 0xce, 0xea, 0xfd, 0xcc, 0xe5, 0x6e, 0x4f, 0x31, 0x02, 0xc6, 0x28,
   0xae, 0x5b, 0xca, 0x81, 0xd2, 0x0e, 0x3f, 0x94, 0x38, 0x7d, 0x01, 0x1c, 0xc8, 0xf1, 0xec, 0xdd,
   0x69, 0x0f, 0xc1, 0x1a, 0xb6, 0x7e, 0xb8, 0x78, 0x66, 0xb2, 0x85, 0x47, 0x10, 0x4a, 0x2e, 0xd8,
   0x30, 0x19, 0x65, 0x84, 0xe8, 0x24, 0x92, 0x46, 0xb0, 0x22, 0x54, 0x76, 0x97, 0x9e, 0xeb, 0x9c,
   0x95, 0xa6, 0xf3, 0x91, 0x82, 0x7a, 0x34, 0x52, 0x16, 0xe6, 0x90, 0x7c, 0xbb, 0xfb, 0x04, 0xa2,
   0xe0, 0x18, 0x61, 0xa8, 0x23, 0x55, 0x48, 0xb7, 0x58, 0x79, 0x50, 0xad, 0x56, 0xc9, 0x8b, 0x1d,
   0x11, 0x29, 0xd7, 0x68, 0x6d, 0x45, 0xa3, 0xf2, 0x39, 0xa9, 0xda, 0x8e, 0x41, 0x9d, 0x9a, 0x70,
   0xe7, 0x93, 0xf4, 0xbd, 0x72, 0xfa, 0x0c, 0xa4, 0x07, 0x73, 0xff, 0xb4, 0xde, 0xf6, 0xf9, 0x15,
   0xc3, 0x42, 0x75, 0xc0, 0xee, 0xc2, 0xf0, 0x5a, 0x3b, 0x20, 0x3a, 0x8c, 0x43, 0x2c, 0xcf, 0x8a,
   0xb9, 0xb5, 0xd3, 0xcb, 0xaf, 0x80, 0xf5, 0x5e, 0x2a, 0x0b, 0x35, 0x8f, 0x13, 0xc5, 0x4e, 0x53,
   0x1f, 0x98, 0x51, 0xe2, 0x60, 0x99, 0xd1, 0x77, 0x57, 0xaa, 0x7f, 0x25, 0x63, 0xbe, 0x9f, 0x40,
   0xd9, 0xf8, 0x6c, 0x5d, 0xba, 0x05, 0xd5, 0x5f, 0xfc, 0x59, 0xb1, 0x4c, 0x88, 0x83, 0x62, 0xac,
   0x0a, 0x6f, 0x9b, 0xdb, 0xfe, 0x06, 0x37, 0x8d, 0x08, 0x6b, 0x96, 0xed, 0x89, 0x17, 0xbc, 0xe9,
   0x14, 0x67, 0x4b, 0x36, 0xc7, 0x49, 0x5c, 0xa7, 0xcd, 0x7b, 0x2f, 0xdc, 0xc4, 0xd4, 0xa1, 0xab,
   0xa5, 0x0d, 0x1e, 0xbf, 0x86, 0xe1, 0x3e, 0xb3, 0x03, 0x87, 0x64, 0x71, 0x2b, 0x6a, 0x00, 0x1b],
  [0x20, 0xb3, 0x0d, 0xf5, 0xc2, 0x9b, 0x18, 0x9f, 0x58, 0x6d, 0xa2, 0x47, 0xd5, 0x3d, 0x23, 0x93,
   0x8d, 0xf6, 0xc7, 0x4d, 0xe4, 0x10, 0xc9, 0x71, 0x75, 0x3a, 0x52, 0xd3, 0xfb, 0x66, 0xa9, 0x2c,
   0xf7, 0xf1, 0x6a, 0x25, 0xed, 0x06, 0xb6, 0xd8, 0x44, 0x4c, 0xa3, 0x67, 0x39, 0x3f, 0x90, 0xd0,
   0xd6, 0x32, 0xe9, 0x68, 0xb5, 0x7c, 0x96, 0xcd, 0x5c, 0xe7, 0x51, 0xce, 0xfa, 0xb9, 0x5a, 0x9c,
   0x9e, 0xa0, 0x4a, 0x24, 0xaf, 0x95, 0x98, 0x42, 0x53, 0xec, 0xd2, 0x6c, 0x35, 0xf2, 0x99, 0x61,
   0xca, 0x9d, 0x41, 0x37, 0x29, 0xc0, 0x33, 0xb8, 0xba, 0xa6, 0xdf, 0xc6, 0x0b, 0xe8, 0x60, 0x4f,
   0x91, 0x8f, 0x70, 0x22, 0x2e, 0x7e, 0x5e, 0x4e, 0xbf, 0x07, 0x7d, 0x97, 0xe3, 0x0a, 0x2d, 0x54,
   0x6f, 0x7b, 0x50, 0x03, 0xa4, 0x62, 0xf3, 0xda, 0x2a, 0xb1, 0xf8, 0x15, 0xe2, 0x12, 0x34, 0x85,
   0xe1, 0x76, 0xf9, 0xd9, 0x46, 0x8a, 0x0c, 0xc1, 0xcc, 0xbb, 0x1b, 0x49, 0xab, 0x11, 0xb7, 0x87,
   0x30, 0x4b, 0x77, 0xf4, 0xd7, 0xaa, 0xc3, 0x55, 0xef, 0x02, 0xea, 0xe5, 0xfd, 0x16, 0x09, 0xd4,
   0xa5, 0x28, 0x36, 0x79, 0x1c, 0xad, 0x2b, 0xb4, 0x73, 0xe0, 0xbd, 0xbe, 0x1d, 0x64, 0x40, 0x5f,
   0x08, 0x1a, 0x17, 0x92, 0x5d, 0x6b, 0xfc, 0xde, 0x83, 0x31, 0x57, 0x0f, 0x8c, 0x45, 0xb2, 0xc4,
   0xeb, 0x82, 0xdd, 0x88, 0xa7, 0x13, 0x01, 0x21, 0x74, 0x2f, 0x0e, 0xff, 0x27, 0x94, 0x3e, 0xf0,
   0xdc, 0x78, 0x63, 0x1e, 0xc8, 0xcb, 0x1f, 0x43, 0x14, 0x8b, 0xae, 0xac, 0x26, 0x59, 0x38, 0x00,
   0xee, 0x8e, 0xd1, 0x48, 0xa1, 0xdb, 0x5b, 0x72, 0xb0, 0x05, 0xfe, 0x6e, 0x80, 0x89, 0x65, 0x81,
   0x56, 0xc5, 0x3c, 0x9a, 0x7a, 0x04, 0x84, 0x69, 0x7f, 0xbc, 0xcf, 0x86, 0x19, 0xe6, 0xa8, 0x3b],
  [0x41, 0xb9, 0x73, 0xfa, 0xf8, 0x6c, 0x4d, 0xb8, 0x5f, 0x43, 0xe0, 0x4f, 0xa3, 0xbf, 0x16, 0x47,
   0x77, 0xf5, 0x8a, 0xc8, 0x3b, 0x99, 0x8e, 0x97, 0xdf, 0xaa, 0x71, 0x5b, 0xd9, 0xc4, 0x2c, 0x5d,
   0x44, 0x11, 0x17, 0xea, 0xba, 0x28, 0xf0, 0xa2, 0x02, 0x00, 0xe3, 0x0f, 0xfb, 0xce, 0x5c, 0xe5,
   0x4b, 0x0c, 0x40, 0x18, 0x82, 0x8d, 0x15, 0x87, 0x24, 0x81, 0x4c, 0x89, 0xc5, 0x56, 0xd5, 0x1d,
   0x2e, 0x1b, 0x32, 0x6b, 0x66, 0xfd, 0xfc, 0x3d, 0x3c, 0x2b, 0xbb, 0x78, 0xaf, 0x98, 0xb3, 0x7d,
   0xb5, 0x01, 0xae, 0xb1, 0x53, 0x95, 0x35, 0xdb, 0x26, 0x04, 0x39, 0x03, 0x4a, 0x90, 0xad, 0xb2,
   0x9e, 0x8b, 0x14, 0xee, 0x57, 0xc2, 0x38, 0x0d, 0x3a, 0x83, 0xfe, 0x7e, 0x84, 0x54, 0x1e, 0x0e,
   0xcf, 0x70, 0x51, 0x7f, 0xd6, 0xb0, 0xa7, 0x29, 0xbd, 0x49, 0xf6, 0x80, 0x93, 0x6f, 0xc9, 0x9b,
   0x92, 0xec, 0x96, 0xf2, 0x68, 0x37, 0xda, 0xc6, 0x10, 0x59, 0x07, 0x0b, 0x63, 0x76, 0x91, 0x08,
   0xa4, 0xc0, 0xdd, 0x5e, 0x33, 0x8c, 0x45, 0xb7, 0xcb, 0x60, 0x1c, 0x9d, 0xe6, 0xca, 0x42, 0xed,
   0x74, 0x9c, 0x9f, 0xdc, 0x2d, 0xf7, 0x85, 0x22, 0xd8, 0x30, 0x75, 0xde, 0x06, 0xd7, 0x9a, 0xf1,
   0xff, 0x67, 0xd3, 0x61, 0xa0, 0x7a, 0xe1, 0xd2, 0xbc, 0xe9, 0x13, 0x09, 0xc3, 0xcd, 0xef, 0x27,
   0x94, 0xab, 0x62, 0x50, 0xeb, 0xbe, 0x12, 0xe2, 0xd4, 0xe7, 0x5a, 0x86, 0x23, 0xe8, 0xa8, 0x2f,
   0x31, 0xd1, 0xe4, 0x19, 0xc1, 0x88, 0xa1, 0x25, 0x48, 0xf9, 0xb4, 0x20, 0xf3, 0x3e, 0x34, 0xa6,
   0xa9, 0x8f, 0x7c, 0x79, 0xb6, 0x6e, 0x1f, 0x4e, 0xcc, 0x6d, 0x1a, 0x21, 0x65, 0x36, 0x55, 0x64,
   0xf4, 0x7b, 0x0a, 0x72, 0xac, 0x46, 0x2a, 0x6a, 0xa5, 0x3f, 0x52, 0xc7, 0x69, 0xd0, 0x05, 0x58],
  [0x9d, 0xa3, 0x24, 0x9c, 0x86, 0xed, 0x89, 0x31, 0x2b, 0x07, 0xe9, 0x6f, 0x3f, 0xb4, 0xa0, 0x21,
   0x28, 0xfe, 0xe7, 0x63, 0x20, 0x5b, 0x65, 0x42, 0xdf, 0xff, 0x2d, 0xd7, 0x49, 0xef, 0x92, 0xaa,
   0x80, 0xd3, 0x44, 0xc1, 0x6e, 0xce, 0x4b, 0xb7, 0xc6, 0x66, 0xfa, 0xe8, 0xa4, 0x91, 0x97, 0x96,
   0xb9, 0xd6, 0x5c, 0x61, 0x9a, 0x62, 0x85, 0xbe, 0xac, 0x45, 0x17, 0x1c, 0x27, 0x0f, 0x67, 0xcf,
   0x38, 0x3a, 0xf1, 0x11, 0x47, 0xee, 0xa9, 0x83, 0x9f, 0xca, 0x06, 0x6d, 0x0e, 0x2f, 0x7a, 0x41,
   0x2e, 0x78, 0x7d, 0xd9, 0x25, 0x34, 0xb3, 0xa8, 0xfc, 0xb0, 0x04, 0x90, 0x50, 0x79, 0x48, 0xbd,
   0xc4, 0xc5, 0x22, 0x98, 0x81, 0x73, 0x29, 0x8a, 0x40, 0xf4, 0x54, 0x1e, 0xfb, 0xf9, 0xbb, 0xf0,
   0xcb, 0x2c, 0x57, 0x51, 0xc3, 0xd4, 0xab, 0x1d, 0x0d, 0xc9, 0x19, 0xea, 0x72, 0x36, 0xa5, 0x8b,
   0x08, 0x15, 0x12, 0xeb, 0xaf, 0xb8, 0x03, 0xd2, 0xa1, 0xe4, 0x59, 0x0c, 0x70, 0xa7, 0x39, 0x23,
   0xd1, 0x94, 0x18, 0xad, 0xb1, 0xd8, 0xfd, 0x46, 0xf2, 0xba, 0x53, 0xd5, 0x10, 0x7c, 0xc0, 0x95,
   0x3d, 0x43, 0x5a, 0x4c, 0x71, 0x55, 0x74, 0xcc, 0x35, 0x6c, 0x4f, 0x05, 0x58, 0x82, 0x5d, 0x75,
   0x09, 0xe6, 0x1a, 0xa2, 0x9b, 0xdb, 0x8e, 0x5f, 0xe1, 0x69, 0x5e, 0xb2, 0x77, 0x76, 0x4d, 0x60,
   0x0b, 0x6a, 0x64, 0x33, 0x4a, 0x3b, 0x8d, 0x2a, 0x84, 0x7e, 0x00, 0x01, 0x87, 0x56, 0x4e, 0xc2,
   0xf3, 0x52, 0xc8, 0x26, 0x02, 0xdd, 0x68, 0xb6, 0xde, 0x37, 0xec, 0x7b, 0x88, 0x99, 0x3e, 0x3c,
   0x32, 0x1b, 0xf7, 0x6b, 0x0a, 0x8f, 0x9e, 0x14, 0x13, 0xda, 0x93, 0xf6, 0x16, 0xd0, 0xa6, 0xe2,
   0x30, 0xe0, 0xc7, 0xf5, 0xe5, 0x7f, 0xcd, 0xdc, 0xbf, 0x8c, 0xe3, 0xf8, 0xb5, 0xae, 0x1f, 0xbc],
  [0x7f, 0x1b, 0x0e, 0xda, 0x21, 0x7d, 0x52, 0xb2, 0x4a, 0xd5, 0x8a, 0x4d, 0x37, 0x26, 0x99, 0xf6,
   0x1a, 0xdd, 0x6e, 0xf2, 0x8e, 0x3d, 0x91, 0xab, 0x71, 0xcf, 0x3e, 0x0d, 0x62, 0x8f, 0x5d, 0x08,
   0xf9, 0xf1, 0xef, 0x88, 0xec, 0xfe, 0x32, 0xd0, 0x87, 0x49, 0x53, 0x30, 0xe7, 0x15, 0x3a, 0xed,
   0x85, 0xba, 0x66, 0x75, 0x9d, 0xc1, 0xc8, 0xc9, 0xf8, 0x13, 0x1d, 0x57, 0xa6, 0xde, 0x33, 0xa7,
   0xd2, 0x46, 0x6b, 0xf5, 0xff, 0x19, 0x68, 0x9e, 0xbf, 0x42, 0xea, 0x1f, 0x9f, 0x2f, 0x40, 0xfc,
   0xa4, 0x3c, 0x05, 0x0c, 0xf4, 0xc2, 0x5b, 0x20, 0x84, 0x4f, 0x02, 0x97, 0xf7, 0xa2, 0x82, 0xbd,
   0xb0, 0x18, 0xc3, 0x14, 0x6c, 0xa3, 0xe5, 0x25, 0x7a, 0xf3, 0x9a, 0x35, 0xe6, 0x28, 0xe1, 0x6a,
   0xd1, 0xfd, 0x06, 0xb5, 0x0a, 0x92, 0x5f, 0x01, 0x27, 0x38, 0xbb, 0xc6, 0x80, 0xeb, 0x24, 0xb8,
   0x86, 0xd8, 0xd3, 0x44, 0xee, 0x67, 0x61, 0x90, 0xaf, 0xdc, 0x4e, 0xcd, 0x83, 0xb1, 0x1e, 0x45,
   0x22, 0xbe, 0x2c, 0x69, 0x2a, 0x23, 0x74, 0x79, 0xb3, 0xa9, 0x16, 0x73, 0x48, 0xe8, 0xc7, 0xe9,
   0x1c, 0xd4, 0x76, 0xe0, 0xaa, 0xb4, 0x47, 0xb9, 0xb7, 0x7b, 0x5e, 0x98, 0x93, 0x12, 0xc5, 0xca,
   0x2d, 0x29, 0x96, 0x6f, 0x17, 0x50, 0x34, 0x78, 0x6d, 0x07, 0xa8, 0x2e, 0xd7, 0xe3, 0xcb, 0xd9,
   0x31, 0x58, 0x72, 0xe4, 0xf0, 0x9b, 0x8c, 0x09, 0xae, 0x55, 0x11, 0x5a, 0x2b, 0x59, 0x8d, 0x43,
   0xa1, 0x3f, 0x63, 0xc4, 0x81, 0x10, 0x54, 0xbc, 0x03, 0xce, 0x65, 0x4c, 0xa5, 0x0f, 0xac, 0x51,
   0x7e, 0x7c, 0x0b, 0x41, 0xdb, 0x60, 0x94, 0x64, 0x5c, 0x4b, 0x04, 0x77, 0x8b, 0xd6, 0xc0, 0x95,
   0x39, 0x56, 0x3b, 0x9c, 0xfb, 0xdf, 0x89, 0x00, 0x70, 0xe2, 0xfa, 0xad, 0xb6, 0xa0, 0x36, 0xcc],
  [0xa4, 0x0c, 0xe9, 0x67, 0x7c, 0x3f, 0x2a, 0x00, 0xef, 0x8c, 0x39, 0x1e, 0x61, 0x55, 0x8f, 0xc6,
   0x23, 0x4d, 0x94, 0x3b, 0x0e, 0x29, 0x71, 0x97, 0x73, 0x14, 0x5c, 0xc7, 0xd0, 0x34, 0xb1, 0x18,
   0x17, 0xfb, 0xcf, 0xea, 0xdf, 0x2e, 0xf7, 0xba, 0x0d, 0xbf, 0xbc, 0x30, 0x45, 0xc3, 0x9f, 0x08,
   0xb4, 0xd6, 0x9a, 0x48, 0x11, 0x8e, 0x13, 0x99, 0x49, 0xac, 0x5f, 0x8d, 0x3c, 0xbe, 0x36, 0x5a,
   0x32, 0x87, 0x5d, 0x6c, 0x0a, 0xd4, 0xf4, 0x05, 0x0f, 0xa5, 0x91, 0x77, 0x9e, 0x15, 0x47, 0x64,
   0x24, 0x4c, 0xe4, 0x76, 0xde, 0xff, 0xe6, 0xd5, 0xf0, 0xaf, 0xbb, 0x53, 0x83, 0x72, 0xee, 0x12,
   0x04, 0xdc, 0x78, 0xa2, 0x16, 0x81, 0x02, 0x6a, 0x68, 0xf1, 0x9b, 0x37, 0x8a, 0x58, 0xf9, 0x3e,
   0xfd, 0x35, 0x03, 0x1f, 0x7b, 0x7a, 0x90, 0xf3, 0xda, 0x82, 0x60, 0x80, 0xd1, 0x50, 0xb8, 0xe7,
   0x56, 0xb7, 0xae, 0x4e, 0xcc, 0x2f, 0x59, 0xce, 0xf5, 0xe1, 0x9d, 0x84, 0xd2, 0xdb, 0x2b, 0x93,
   0x06, 0x3a, 0x92, 0xa7, 0x9c, 0x07, 0x44, 0x6b, 0xbd, 0xd8, 0xb6, 0x46, 0x8b, 0xf2, 0xa3, 0x74,
   0xad, 0x88, 0x75, 0x69, 0x79, 0xd7, 0xb0, 0xe2, 0x2c, 0x6f, 0x26, 0xca, 0x43, 0xcb, 0xfa, 0x96,
   0x19, 0xc0, 0x7e, 0x22, 0x86, 0x31, 0xcd, 0xa6, 0x62, 0x25, 0x42, 0x3d, 0x5b, 0x01, 0xc1, 0x57,
   0xec, 0x1b, 0x1c, 0x95, 0xfe, 0xab, 0x21, 0x20, 0xe8, 0xc8, 0xeb, 0xed, 0x1d, 0xaa, 0xc5, 0x66,
   0x5e, 0xdd, 0x98, 0x0b, 0x85, 0xfc, 0x41, 0x4f, 0xc2, 0x6d, 0x4b, 0xb3, 0x27, 0xa1, 0xf6, 0x28,
   0x54, 0x40, 0x10, 0x4a, 0xa8, 0xc4, 0xe5, 0xb5, 0xc9, 0xf8, 0x33, 0x70, 0xa9, 0x51, 0x65, 0xd3,
   0x6e, 0xb9, 0x89, 0x7d, 0x09, 0x2d, 0x52, 0x38, 0xb2, 0x63, 0x7f, 0xd9, 0xa0, 0xe3, 0xe0, 0x1a],
  [0x12, 0x22, 0x8e, 0xe6, 0x88, 0xc2, 0x99, 0xdd, 0x5d, 0x49, 0x60, 0x6c, 0x2d, 0xf4, 0x85, 0x8b,
   0x67, 0xc6, 0x5b, 0x1c, 0xb2, 0xdb, 0x38, 0xf8, 0xbb, 0xd4, 0xc4, 0xae, 0x2a, 0xb5, 0x76, 0x80,
   0xc9, 0x43, 0xe4, 0xcc, 0xc3, 0x03, 0x20, 0x05, 0x6f, 0x84, 0x94, 0xce, 0xd9, 0xbe, 0xb8, 0xb6,
   0x7d, 0x54, 0xf5, 0x13, 0x02, 0xdf, 0xfd, 0x86, 0x0a, 0x93, 0xee, 0x73, 0x9b, 0x68, 0x7a, 0xbd,
   0xff, 0x31, 0x45, 0x92, 0xa0, 0xad, 0x09, 0x0f, 0x3d, 0x1d, 0xea, 0x07, 0x97, 0xda, 0x8d, 0x62,
   0x56, 0x53, 0xde, 0x91, 0x0e, 0xba, 0xd8, 0x51, 0xd2, 0x4b, 0xe1, 0x5a, 0xa9, 0x4e, 0x70, 0x15,
   0x35, 0xb3, 0x75, 0x36, 0xac, 0xe3, 0x7f, 0xb1, 0x1b, 0xf7, 0xf9, 0x98, 0xd7, 0xec, 0x7b, 0x64,
   0xd0, 0xd3, 0x01, 0x11, 0xc1, 0x1a, 0x3f, 0xcd, 0x48, 0x21, 0x00, 0xf0, 0x74, 0x2f, 0xa2, 0x55,
   0xed, 0x78, 0xfa, 0x81, 0x42, 0x17, 0x37, 0xf3, 0xf6, 0xe8, 0x29, 0x0b, 0x50, 0x90, 0x3c, 0xfb,
   0x16, 0x27, 0x3b, 0x59, 0xa1, 0x14, 0x96, 0x82, 0x71, 0x41, 0x9a, 0xbf, 0x2b, 0x9d, 0x79, 0xe9,
   0xa7, 0xcb, 0x89, 0x30, 0xca, 0xab, 0x8c, 0x0c, 0xef, 0x9e, 0x5f, 0x57, 0xd1, 0x69, 0x58, 0x18,
   0x6d, 0x3a, 0x7c, 0x06, 0xc0, 0xc8, 0xf1, 0x63, 0xa6, 0xa4, 0x9f, 0x4d, 0x8a, 0x24, 0xbc, 0xe0,
   0xe7, 0x32, 0xaf, 0xd5, 0x1f, 0x19, 0x08, 0x26, 0xb4, 0x34, 0x66, 0xb0, 0x95, 0x2e, 0x7e, 0x5c,
   0x0d, 0x28, 0xa3, 0x61, 0x4c, 0xfc, 0xd6, 0x6a, 0x72, 0x33, 0xaa, 0xb7, 0x10, 0xe5, 0xc5, 0x46,
   0x25, 0x04, 0x4a, 0x44, 0x23, 0x47, 0xf2, 0xb9, 0xfe, 0x39, 0x40, 0x52, 0x1e, 0x4f, 0x77, 0xc7,
   0x5e, 0xeb, 0xa8, 0x87, 0xdc, 0x3e, 0x8f, 0x9c, 0x83, 0x2c, 0x65, 0xe2, 0x6e, 0x6b, 0xcf, 0xa5],
  [0x72, 0xdd, 0x80, 0xb8, 0x33, 0x3d, 0xdf, 0x2b, 0xac, 0xd0, 0x06, 0x01, 0x9a, 0x4e, 0x4c, 0xde,
   0xf1, 0xe1, 0x20, 0x94, 0xf9, 0xe6, 0x8e, 0xfd, 0x14, 0xf6, 0xaa, 0x82, 0x15, 0xce, 0x27, 0x49,
   0x6a, 0x96, 0x8c, 0x1f, 0xb1, 0xd3, 0xe0, 0xa9, 0xc3, 0x51, 0xa8, 0xeb, 0x23, 0x00, 0x04, 0x85,
   0xae, 0x95, 0xd7, 0x58, 0x83, 0x7d, 0x25, 0xe3, 0x76, 0xb2, 0xc6, 0xe7, 0x0a, 0xbc, 0x2f, 0x67,
   0x73, 0xad, 0x90, 0xdb, 0x5b, 0x8a, 0xf8, 0x62, 0x21, 0xf0, 0x6d, 0xcb, 0x84, 0xb4, 0x11, 0x98,
   0xaf, 0xb9, 0xab, 0x56, 0xa3, 0xb0, 0xbb, 0x50, 0xf3, 0x8b, 0x5d, 0x05, 0x7e, 0x30, 0xf4, 0x91,
   0xb7, 0x9e, 0x02, 0xea, 0x9f, 0x07, 0x5a, 0x77, 0xc5, 0xc2, 0x99, 0xfe, 0x55, 0xa2, 0x26, 0xd8,
   0x79, 0x8f, 0xd2, 0xe4, 0xed, 0xff, 0x6e, 0x53, 0x64, 0x0d, 0x45, 0xc7, 0x0b, 0x3f, 0x6c, 0xa1,
   0xc4, 0x32, 0x0e, 0x7c, 0xf5, 0x48, 0x09, 0x34, 0x66, 0x59, 0xb6, 0x1c, 0x13, 0x42, 0xda, 0xd9,
   0xbe, 0x38, 0x37, 0xec, 0x9d, 0xef, 0xba, 0xe9, 0x31, 0x3e, 0x43, 0x47, 0x28, 0x70, 0xc9, 0x52,
   0xb3, 0x7a, 0x71, 0xa7, 0x1e, 0x2c, 0x69, 0x19, 0xfb, 0x41, 0xa6, 0x4a, 0x7b, 0x75, 0x6f, 0xe8,
   0x22, 0xf2, 0xd1, 0xa4, 0x2e, 0x3b, 0xfc, 0xcd, 0xc0, 0x0c, 0x8d, 0xa5, 0x92, 0x5e, 0x57, 0x0f,
   0x39, 0x60, 0x36, 0xcf, 0xdc, 0x88, 0x63, 0xee, 0x16, 0x78, 0xca, 0x4f, 0x9c, 0x1d, 0xc1, 0x2d,
   0xbf, 0x18, 0x93, 0x40, 0x4d, 0x97, 0x08, 0xa0, 0x4b, 0x6b, 0xcc, 0x87, 0xfa, 0x24, 0xbd, 0x17,
   0x86, 0x3c, 0xe5, 0x12, 0x35, 0x65, 0xf7, 0x5f, 0x68, 0x29, 0x3a, 0xe2, 0x9b, 0x5c, 0x10, 0x44,
   0x1b, 0xc8, 0xb5, 0x46, 0xd5, 0x61, 0x03, 0xd6, 0x2a, 0x81, 0x74, 0x1a, 0x54, 0x89, 0x7f, 0xd4],
  [0x6e, 0xc3, 0x57, 0x46, 0x84, 0xed, 0x29, 0x83, 0xcb, 0xa3, 0x6a, 0x9d, 0xc8, 0x7e, 0xac, 0x33,
   0x04, 0xf6, 0x4b, 0x3f, 0xda, 0x6c, 0xa1, 0xd7, 0x2a, 0xba, 0x9f, 0x73, 0x02, 0x23, 0x3d, 0xe5,
   0xb4, 0xb7, 0x37, 0x0f, 0x7c, 0x8a, 0xe8, 0x49, 0x64, 0xa0, 0xaf, 0xf5, 0x42, 0x85, 0xf2, 0x32,
   0x72, 0x17, 0xad, 0xde, 0x7f, 0xcf, 0x98, 0xf3, 0x95, 0xf0, 0xf7, 0x22, 0x65, 0x1e, 0xc2, 0x10,
   0x28, 0x58, 0xf9, 0x0e, 0x1c, 0xaa, 0x7a, 0xb0, 0x13, 0x78, 0x69, 0xf4, 0x21, 0x3b, 0x51, 0xb5,
   0x4a, 0x81, 0x76, 0x94, 0xdb, 0xd3, 0x2b, 0x80, 0x7b, 0x11, 0xc6, 0x6f, 0xd9, 0x41, 0x19, 0xd5,
   0x40, 0x7d, 0x06, 0xc4, 0x31, 0xb8, 0xe1, 0xa5, 0xca, 0x59, 0xe3, 0xe0, 0x63, 0x9c, 0x14, 0x5c,
   0xff, 0x03, 0x2f, 0xbd, 0xc7, 0x27, 0x5f, 0xe7, 0xb2, 0x56, 0x4d, 0x35, 0x08, 0x2c, 0x47, 0x8f,
   0x5e, 0xbc, 0x25, 0xe9, 0x0c, 0xfd, 0xef, 0xb1, 0xfb, 0xdf, 0x05, 0xf8, 0x53, 0x89, 0x97, 0x54,
   0xd1, 0xe2, 0x01, 0xc0, 0x07, 0x8b, 0x52, 0x5a, 0xa2, 0xdc, 0x9e, 0xcc, 0x00, 0x44, 0xab, 0xd8,
   0x77, 0x36, 0xbb, 0xd0, 0xa6, 0xbe, 0xe4, 0x3c, 0xea, 0xcd, 0x91, 0x0a, 0xe6, 0x30, 0x4e, 0x74,
   0xd2, 0x62, 0x6d, 0x3e, 0x90, 0x8e, 0xf1, 0xd6, 0x3a, 0x48, 0x79, 0x0d, 0x88, 0x70, 0x0b, 0x39,
   0x1b, 0xec, 0x68, 0x5d, 0xc1, 0x9a, 0xb3, 0x1d, 0xeb, 0x75, 0xc5, 0x99, 0x18, 0x6b, 0x15, 0x20,
   0x60, 0x38, 0x12, 0x9b, 0x09, 0x67, 0x55, 0x8c, 0xb9, 0xa9, 0x82, 0x43, 0xa8, 0xee, 0x93, 0x2d,
   0xfe, 0x92, 0x5b, 0xae, 0xd4, 0x1a, 0x66, 0xa4, 0xb6, 0x61, 0x50, 0x2e, 0xfa, 0xdd, 0x4c, 0x24,
   0x4f, 0xce, 0x96, 0x45, 0x26, 0xa7, 0xfc, 0xc9, 0x34, 0xbf, 0x86, 0x1f, 0x16, 0x8d, 0x87, 0x71],
  [0x66, 0x00, 0x81, 0x79, 0x2e, 0xc5, 0x6f, 0xe1, 0x1e, 0xb4, 0x7d, 0xff, 0x19, 0xd0, 0xcd, 0x8d,
   0x2c, 0xa2, 0x93, 0x24, 0xfd, 0x4b, 0xd8, 0x34, 0xd1, 0x0f, 0xca, 0x68, 0xb1, 0xe0, 0xba, 0x44,
   0x43, 0xf9, 0x95, 0x91, 0xc3, 0x31, 0x6c, 0x11, 0x17, 0x32, 0x9c, 0xb8, 0x16, 0xbe, 0xef, 0xfa,
   0x04, 0x08, 0x28, 0xea, 0x39, 0xe9, 0x54, 0xac, 0x71, 0x62, 0xf2, 0xd9, 0x36, 0x1b, 0x56, 0x9e,
   0xf5, 0x99, 0xc2, 0xd3, 0xc1, 0x46, 0x26, 0x83, 0xee, 0x1a, 0x9a, 0x27, 0x4d, 0xf7, 0x77, 0xd2,
   0x74, 0xaf, 0xf1, 0x90, 0x38, 0x63, 0xd6, 0xc4, 0x09, 0x01, 0xfe, 0x58, 0xe8, 0x84, 0xbb, 0x73,
   0x3a, 0x4f, 0x5d, 0xc0, 0x3f, 0x5c, 0x75, 0x02, 0x21, 0x61, 0x47, 0x86, 0x88, 0xdb, 0x13, 0xcf,
   0x6a, 0x40, 0x49, 0x6b, 0x8f, 0x57, 0x3b, 0x18, 0xfc, 0x9f, 0xa0, 0x92, 0x8e, 0x69, 0x0d, 0x59,
   0xe4, 0xf6, 0x97, 0x37, 0x22, 0xde, 0x20, 0xd7, 0x76, 0xe5, 0xc8, 0xc7, 0x65, 0x07, 0x5e, 0x3c,
   0x35, 0xdc, 0x6e, 0x5a, 0xce, 0xf4, 0x98, 0x45, 0x41, 0xb5, 0x51, 0x4c, 0x7e, 0x06, 0x23, 0x42,
   0x52, 0x0e, 0xb9, 0xbc, 0x3d, 0xcc, 0x2a, 0xdd, 0x6d, 0x85, 0x29, 0x55, 0xa4, 0x8a, 0xb2, 0x30,
   0x12, 0x8c, 0x0b, 0x94, 0x8b, 0x0c, 0xa8, 0x7f, 0xe7, 0x78, 0x03, 0xa5, 0x89, 0x4a, 0x3e, 0xe3,
   0xbf, 0x10, 0xf3, 0x2f, 0xb3, 0x72, 0x7a, 0x15, 0xfb, 0x05, 0xb7, 0x5f, 0xe2, 0x50, 0x53, 0x70,
   0xc9, 0xed, 0x5b, 0xa9, 0x0a, 0xb0, 0x7c, 0x67, 0xf8, 0x14, 0x2b, 0x1d, 0x80, 0x1c, 0xab, 0xa7,
   0xb6, 0xd5, 0xec, 0x64, 0xda, 0x96, 0x48, 0xdf, 0xa1, 0xae, 0xa3, 0xbd, 0xaa, 0xd4, 0x2d, 0x25,
   0x9d, 0xa6, 0xcb, 0xeb, 0x1f, 0xe6, 0x82, 0xf0, 0x33, 0x7b, 0x9b, 0x60, 0xad, 0xc6, 0x4e, 0x87]]

/- sslInitDictionary. k is 256 where no entry of the row is j. -/
def reversedDictionary : List (List UInt8) :=
  dictionary.map fun row => (List.range 256).map fun j => UInt8.ofNat (row.idxOf (UInt8.ofNat j))

abbrev Memory := Int → UInt8

/- The loop over the bytes: each is read, replaced and stored before the next. -/
def substitute (replace : Nat → UInt8 → UInt8) (inData outData : Int) (count : Nat)
    (memory : Memory) : Memory :=
  (List.range count).foldl (fun memory (i : Nat) =>
    Function.update memory (outData + i) (replace i (memory (inData + i)))) memory

/- The row of the byte i; the sum is one of unsigned ints. -/
def row (rows : List (List UInt8)) (key2 i : Nat) : List UInt8 :=
  rows.getD ((key2 + i) % 2 ^ 32 % 10) []

def encryptByte (key : UInt8) (key2 i : Nat) (b : UInt8) : UInt8 :=
  (row dictionary key2 i).getD b.toNat 0 ^^^ key

def decryptByte (key : UInt8) (key2 i : Nat) (b : UInt8) : UInt8 :=
  (row reversedDictionary key2 i).getD (b ^^^ key).toNat 0

/- drawn is what rand returns. -/
def sslEncrypt (memory : Memory) (key : UInt8) (inData inLen outData : Int) (drawn : Nat) :
    Outcome (Int × Memory) :=
  if key = 0 then .done (inLen, memory)
  else
    let key2 := drawn % 256
    let memory := substitute (encryptByte key key2) inData outData inLen.toNat memory
    let memory := Function.update memory (outData + inLen) (UInt8.ofNat key2)
    (int (inLen + 1)).bind fun len => .done (len, memory)

def sslDecrypt (memory : Memory) (key : UInt8) (inData inLen outData : Int) :
    Outcome (Int × Memory) :=
  if key = 0 then .done (inLen, memory)
  else
    (int (inLen - 1)).bind fun last =>
      let key2 := (memory (inData + last)).toNat
      .done (last, substitute (decryptByte key key2) inData outData inLen.toNat memory)

/- Both calls in place, the first one with the n bytes from data on. -/
def encryptDecrypt (memory : Memory) (key : UInt8) (data : Int) (n drawn : Nat) :
    Outcome (Int × Memory) :=
  (int n).bind fun inLen =>
    (sslEncrypt memory key data inLen data drawn).bind fun encrypted =>
      sslDecrypt encrypted.2 key data encrypted.1 data

def RoundTrip (memory : Memory) (key : UInt8) (data : Int) (n drawn : Nat) : Prop :=
  ∃ left, encryptDecrypt memory key data n drawn = .done ((n : Int), left) ∧
    ∀ i : Nat, i < n → left (data + i) = memory (data + i)

section Rows

theorem dictionary_rows : ∀ row ∈ dictionary, row.length = 256 ∧
    mask (row.map UInt8.toNat) = mask (List.range 256) := by decide +kernel

theorem row_perm {bytes : List UInt8} (member : bytes ∈ dictionary) :
    (List.range 256).Perm (bytes.map UInt8.toNat) := by
  obtain ⟨length, codes⟩ := dictionary_rows bytes member
  refine perm_of_mask List.nodup_range ?_ codes
  rw [List.length_map, length, List.length_range]

theorem row_nodup {bytes : List UInt8} (member : bytes ∈ dictionary) : bytes.Nodup :=
  List.Nodup.of_map UInt8.toNat ((row_perm member).nodup_iff.mp List.nodup_range)

variable {key2 i : Nat}

theorem row_dictionary : ∃ bytes ∈ dictionary, row dictionary key2 i = bytes ∧
    row reversedDictionary key2 i =
      (List.range 256).map fun j => UInt8.ofNat (bytes.idxOf (UInt8.ofNat j)) := by
  have inside : (key2 + i) % 2 ^ 32 % 10 < dictionary.length :=
    Nat.mod_lt _ (by decide)
  refine ⟨dictionary[(key2 + i) % 2 ^ 32 % 10], List.getElem_mem inside, ?_, ?_⟩
  · rw [row, List.getD_eq_getElem _ _ inside]
  · rw [row, reversedDictionary, List.getD_eq_getElem _ _ (by rw [List.length_map]; exact inside),
      List.getElem_map]

theorem decryptByte_encryptByte (key b : UInt8) :
    decryptByte key key2 i (encryptByte key key2 i b) = b := by
  obtain ⟨bytes, member, forward, back⟩ := @row_dictionary key2 i
  have place : b.toNat < bytes.length := by
    rw [(dictionary_rows bytes member).1]
    exact b.toNat_lt
  have found : bytes.idxOf bytes[b.toNat] = b.toNat :=
    (row_nodup member).idxOf_getElem b.toNat place
  have byte : bytes[b.toNat].toNat < 256 := UInt8.toNat_lt _
  rw [decryptByte, encryptByte, forward, back, List.getD_eq_getElem _ _ place, UInt8.xor_assoc,
    UInt8.xor_self, UInt8.xor_zero,
    List.getD_eq_getElem _ _ (by rw [List.length_map, List.length_range]; exact byte),
    List.getElem_map, List.getElem_range, UInt8.ofNat_toNat, found, UInt8.ofNat_toNat]

end Rows

section Loops

variable {replace : Nat → UInt8 → UInt8} {data : Int} {count i : Nat} {memory : Memory}

/-- In place, every byte is replaced once. -/
theorem substitute_at :
    substitute replace data data count memory (data + i) =
      if i < count then replace i (memory (data + i)) else memory (data + i) := by
  induction count generalizing i with
  | zero => simp [substitute]
  | succ count ih =>
    have last : substitute replace data data (count + 1) memory =
        Function.update (substitute replace data data count memory) (data + count)
          (replace count (substitute replace data data count memory (data + count))) := by
      simp [substitute, List.range_succ]
    rw [last, Function.update_apply, ih, ih]
    by_cases here : i = count
    · simp [here]
    · have other : ¬ data + (i : Int) = data + (count : Int) := by omega
      rw [if_neg other]
      by_cases before : i < count
      · rw [if_pos before, if_pos (Nat.lt_succ_of_lt before)]
      · rw [if_neg before, if_neg (by omega)]

end Loops

section Calls

variable {memory : Memory} {key : UInt8} {data : Int} {n drawn : Nat}

theorem roundTrip_plain (small : n < 2 ^ 31) (zero : key = 0) :
    RoundTrip memory key data n drawn := by
  refine ⟨memory, ?_, fun _ _ => rfl⟩
  rw [encryptDecrypt, int_natCast small, Outcome.done_bind, sslEncrypt, if_pos zero,
    Outcome.done_bind, sslDecrypt, if_pos zero]

/-- The bytes behind sslEncrypt, with the random byte after them. -/
def encrypted (memory : Memory) (key : UInt8) (data : Int) (n drawn : Nat) : Memory :=
  Function.update (substitute (encryptByte key (drawn % 256)) data data n memory) (data + n)
    (UInt8.ofNat (drawn % 256))

theorem sslEncrypt_done (small : n + 1 < 2 ^ 31) (nonzero : key ≠ 0) :
    sslEncrypt memory key data n data drawn =
      .done (((n + 1 : Nat) : Int), encrypted memory key data n drawn) := by
  have longer : (n : Int) + 1 = (n + 1 : Nat) := by omega
  rw [sslEncrypt, if_neg nonzero, longer, int_natCast small]
  rfl

theorem sslDecrypt_done {from' : Memory} (small : n + 1 < 2 ^ 31) (nonzero : key ≠ 0) :
    sslDecrypt from' key data (n + 1 : Nat) data =
      .done ((n : Int), substitute (decryptByte key (from' (data + n)).toNat) data data (n + 1)
        from') := by
  have shorter : ((n + 1 : Nat) : Int) - 1 = n := by omega
  rw [sslDecrypt, if_neg nonzero, shorter, int_natCast (by omega)]
  rfl

theorem roundTrip_key (small : n + 1 < 2 ^ 31) (nonzero : key ≠ 0) :
    RoundTrip memory key data n drawn := by
  have drawnByte : (encrypted memory key data n drawn (data + n)).toNat = drawn % 256 := by
    rw [encrypted, Function.update_self, UInt8.toNat_ofNat']
    omega
  refine ⟨substitute (decryptByte key (encrypted memory key data n drawn (data + n)).toNat) data
    data (n + 1) (encrypted memory key data n drawn), ?_, ?_⟩
  · rw [encryptDecrypt, int_natCast (by omega), Outcome.done_bind, sslEncrypt_done small nonzero,
      Outcome.done_bind, sslDecrypt_done small nonzero]
  · intro i inside
    have other : data + (i : Int) ≠ data + (n : Int) := by omega
    rw [substitute_at, if_pos (by omega), drawnByte, encrypted, Function.update_of_ne other,
      substitute_at, if_pos inside, decryptByte_encryptByte]

theorem fault_of_large (large : 2 ^ 31 ≤ n + 1) (nonzero : key ≠ 0) :
    encryptDecrypt memory key data n drawn = .fault := by
  rw [encryptDecrypt]
  by_cases small : n < 2 ^ 31
  · rw [int_natCast small, Outcome.done_bind, sslEncrypt, if_neg nonzero, int_fault (by omega)]
    rfl
  · rw [int_fault (by omega)]
    rfl

end Calls

/-- Encrypting and decrypting gives back the bytes as long as the length that sslEncrypt returns
is an int. -/
theorem roundTrip_iff (memory : Memory) (key : UInt8) (data : Int) (n drawn : Nat) :
    RoundTrip memory key data n drawn ↔ n < 2 ^ 31 ∧ (key = 0 ∨ n + 1 < 2 ^ 31) := by
  constructor
  · intro ⟨left, done, _⟩
    have small : n < 2 ^ 31 := by
      by_contra large
      rw [encryptDecrypt, int_fault (by omega)] at done
      cases done
    refine ⟨small, ?_⟩
    by_contra neither
    obtain ⟨nonzero, large⟩ := not_or.mp neither
    rw [fault_of_large (by omega) nonzero] at done
    cases done
  · intro ⟨small, fits⟩
    by_cases zero : key = 0
    · exact roundTrip_plain small zero
    · exact roundTrip_key (fits.resolve_left zero) zero

/-- 2^31 - 1 bytes have no room in an int for one more. -/
theorem longest_not_returned : ¬ RoundTrip (fun _ => 0) 1 0 2147483647 0 := by
  intro ⟨left, done, _⟩
  rw [fault_of_large (by decide) (by decide)] at done
  cases done

end SslCrypt
