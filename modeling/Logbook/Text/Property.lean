import Logbook.Text.Ranges

/-!
# Properties of characters

The sets of code points behind the questions that the rest of the library asks about a character
outside ASCII: whether it is part of a word, whether it has a case, and whether it can be shown as
it is. They are the Unicode character properties of version 17, in the written form of
`Logbook.CodeRanges`.
-/

namespace Logbook.Text.Property

/-- Letters, and the marks and signs that make up words with them. -/
def alphabetic : CodeRanges :=
  .ofText "1t p 7 p 1c 0 b 0 5 0 6 m 2 u 2 cp 5 b f 4 8 0 2 0 2f 0 u h 2 1 3 3 2 0 7 0 2 2 2 0 2 j 2 2a
    2 3u 9 4l 2 11 3 0 7 14 14 d 2 0 2 1 2 1 2 0 9 q 5 3 u a 6 1j 2 6 f 2t 2 7 5 7 5 2 b 2 3 0 h
    1b e 2s p w a 1 5 0 6 n 3 i k o 8 a 6 n 2 6 8 0 9 15 b b 4 6 7 23 2 f 2 2 5 e e i 2 7 3 1 3
    l 2 6 2 0 4 3 4 7 3 1 3 1 2 0 9 0 5 1 2 4 d 1 b 0 5 2 2 5 5 1 3 l 2 6 2 1 2 1 2 1 5 4 5 1 3
    1 5 0 8 3 2 0 i 5 c 2 2 8 2 2 2 l 2 6 2 1 2 4 4 8 2 2 2 1 4 0 g 3 m 3 5 2 2 7 3 1 3 l 2 6 2
    1 2 4 4 7 3 1 3 1 a 1 5 1 2 4 e 0 h 1 2 5 4 2 2 3 4 1 2 0 2 1 4 1 4 2 4 b 5 4 4 2 2 2 4 0 7
    0 15 c 2 2 2 m 2 f 4 7 2 2 2 2 9 1 2 2 2 1 3 3 t 3 2 7 2 2 2 m 2 9 2 4 4 7 2 2 2 2 9 1 6 2 2
    3 e 2 d c 2 2 2 14 3 7 2 2 2 2 2 0 6 3 8 4 n 5 2 2 2 h 4 n 2 8 2 0 3 6 9 5 2 0 2 7 j 1 e 1l
    6 6 7 0 1g 1 2 0 2 4 2 n 2 0 2 i 2 2 3 4 2 0 7 0 f 3 x 0 1s 7 2 z 5 i 5 f 2 z 1w 1i 2 0 3 4
    h 1r b 3 3 11 2 0 6 0 3 16 2 98 2 3 3 6 2 0 2 3 3 14 2 3 3 w 2 3 3 6 2 0 2 3 3 e 2 1k 2 3 3
    1u 12 f h 2d 3 5 4 h7 3 g 2 p 6 22 4 a 8 j c k d j d c 2 2 2 1 d 1f 3 i f 0 5 0 1w 2g 8 16 6
    1x b u 2 b 5 8 o t 3 4 c 17 5 p 1j r 5 1q 3 j 1f 0 o 1 c 2 1e 1f 2 e 2 7 1g 15 3 3 b 17 2 a
    f 1i n 2 b z 3 a 6 16 3 2 16 3 2 5 2 1 4 0 6 5b k x c 7p 3 5 3 11 3 5 3 7 2 0 2 0 2 0 2 u 3
    1g 2 6 2 0 4 2 2 6 4 3 3 5 5 c 6 2 2 6 39 0 e 0 h c 2u 0 5 0 3 9 2 0 4 4 7 0 2 0 2 0 2 3 2 a
    3 3 6 4 5 0 i 14 mm 1f 1ef 6c 7 3 4 1 d 11 2 0 6 0 3 1j 8 0 h m a 6 2 6 2 6 2 6 2 6 2 6 2 6
    2 6 2 v 1c 0 d2 2 q 8 8 4 3 4 5 2d 7 2 2 2h 2 3 6 16 2 2l i v 1d f e9 533 1t h3g 1w 19 3 7g
    4 f b 1 l 1a 6 7 4 34 14 8 3 2u 3 29 l k 2 w p 1f d 1v 2 0 19 5 4 0 2 2 b w 6 y e s 4 1e 2 b
    g 0 h f b 4 2 1i a d j m 4 1w 2 0 2 0 p 2 3 f 3 3 c 5 3 5 3 5 a 6 2 6 2 16 2 d 7 3e m 8mb d
    m 5 1c 6it a5 3 2x 13 6 d 4 6 b 2 c 2 4 2 0 2 1 2 1 2 2z y a2 j 1r 3 1h 15 b 39 4 2 3q 11 p
    7 p c 2g 4 5 3 5 3 5 3 2 10 b 2 p 2 i 2 1 2 e 3 d z 3e 1y 1g 7g s 4 1c 1c v e t 6 16 6 t 3 z
    5 7 2 4 17 4d j z 5 z 5 13 9 1f d a 2 e 2 6 2 1 2 a 2 e 2 6 2 1 4 1f d 8m a l b 7 p 5 2 15 2
    8 1y 5 3 0 2 17 2 1 4 0 3 m b m a u 1u i 2 1 b l b p 7 p 13 1j 7 1 1t 3 2 1 6 7 2 2 2 s 17 s
    4 s 10 7 2 r s 1h b l b i e h 33 20 1k 1e e 1e e 13 z r 4 0 6 m 6z 15 2 1 4 1 h 5 1f 2 4 s b
    0 9 l 17 h 1b k s m a 1x 18 4 b 1k a 0 e o o 1e i 3 9 y 4 0 a 1r 2 3 a 1 b 0 2 0 10 h 2 x 3
    0 7 3 1r 6 2 0 2 3 2 e 2 9 8 1k o 3 2 7 3 1 3 l 2 6 2 1 2 4 4 7 3 1 3 1 4 0 7 0 6 6 t 9 2 0
    3 0 2 11 2 9 2 0 3 0 2 3 2 1 4 0 2 0 19 1t 2 2 2 3 l 2 v 1t 3 1 2 0 55 1h 3 6 q 5 z 1q 2 0 4
    0 1o 1h 3 0 20 q 3 d m 6 56 1k 2w 1r w 7 3 0 3 7 2 1 2 t 2 1 3 1 3 3 2m 7 3 19 3 5 2 0 2 1 s
    1e 3 9 i 1z 6 0 j 20 2w 7 2h w w 8 2 18 2 6 2 0 1e t 3 l 2 d 22 6 2 1 2 17 4 0 2 1 2 2 2 0 3
    1 p 5 2 1 2 10 2 1 2 3 2 0 o 17 79 m a g 2 14 4 2 34 0 28 pl 2v 32 i 5f 219 2o g tr i 5 q
    32y 6 g6 5a2 1a 1ci fs 8 u i 26 i t j 1b h 3 w k 6 i c1 18 5w 1r x o 3 o 19 22 5 1k 8 g 1t 1
    2 0 d 6 a 5p1 16 v 2q 36 6pq 3 2 6 2 1 2 82 g 0 u 2 3 0 f 3 9 az 1s5 2y 6 c 4 8 8 9 5 0 4ma
    2c 2 1y 2 1 3 0 3 1 3 3 2 b 2 0 2 6 2 1s 2 3 3 7 2 6 2 r 2 3 2 4 2 0 4 6 2 9f 3 o 2 o 2 u 2
    o 2 u 2 o 2 u 2 o 2 u 2 o 2 7 1f9 u 7 5 5y 6 2 g 3 6 2 1 2 4 6 1p y 0 35 18 b 6 h 0 8y t j
    17 dh r 6d t 3 0 5s u 2 l 9 1 69 6 2 3 2 1 2 e 2 5g 1o 1v 4 0 4 0 xh 3 2 q 2 1 2 0 3 0 2 9 2
    3 2 0 2 0 7 0 5 0 2 0 2 0 2 2 2 1 2 0 3 0 2 0 2 0 2 0 2 0 2 1 2 0 3 3 2 6 2 3 2 3 2 0 2 9 2
    g 6 2 2 4 2 g hh p 7 p 7 p 2uv wyn x 3dp 3 4gd 3 5rk g h9 1wj f1 15v 3t6 6 6jt"

/-- Digits, and the other signs that stand for a number. -/
def numeric : CodeRanges :=
  .ofText "1c 9 3d 1 6 0 3 2 142 9 3r 9 5j 9 bh 9 3b 9 5 5 31 9 3b 9 3b 9 3 5 33 c 38 9 9 6 2w 9 2x 6 8
    i 32 9 2p 9 3b 9 1z j 7h 9 1z 9 k0 j oi 2 6o 9 7 9 n 9 8d 9 3l a 4m 9 7 9 53 9 2f 9 3r 9 7 9
    t3 0 4 5 7 9 5j 1e 3 4 k7 1n 27 l hj t 12i 0 lm 0 q 8 f 2 9k 3 3v 9 v 7 2 e x 9 14 e msh 9
    59 9 8x 5 4b 9 13 9 5j 9 n 9 2f 9 bb 9 gev 9 dq 18 d 1k i 1 9i q 11 3 u 0 9 0 3r 4 5n 9 q7 7
    q 6 14 8 24 4 n 5 4h 1 3 f 3 19 1t 8 1h 1 v 2 24 4 2x 7 p 7 16 6 97 5 1d 9 7 9 7r u 4f 9 17
    3 35 6 3r t 3l 9 1p 9 41 9 8 j 70 9 9j 9 3b 9 af 9 2v 9 7 j 25 b bp i 2m 9 if 9 2f s 6c 9 1z
    9 1j 9 9z 9 2v k to 32 c02 9 1t3 9 2f 9 3r 9 2 6 en 9 7b m 9q 2 id6 9 153 j d j 31 o uu 1d
    1tt 9 br 9 dz 9 6w 9 jx 8 3l 9 m0 1m 2 2 2 3 25 18 2 e qr c 25g 9"

/-- Letters that have an upper, a lower or a title case. -/
def cased : CodeRanges :=
  .ofText "1t p 7 p 1c 0 b 0 5 0 6 m 2 u 2 5e 2 3 5 5r 3 y 8 1 v 4 2p 0 17 3 3 1 3 3 2 0 7 0 2 2 2 0 2
    j 2 2a 2 3u 9 4l 2 11 a 14 26w 11 2 0 6 0 3 16 2 3 ip 2d 3 5 1oj a 6 16 3 2 1t 5b 1t 7p 3 5
    3 11 3 5 3 7 2 0 2 0 2 0 2 u 3 1g 2 6 2 0 4 2 2 6 4 3 3 5 5 c 6 2 2 6 39 0 e 0 h c 2u 0 5 0
    3 9 2 0 4 4 7 0 2 0 2 0 2 3 2 5 5 0 3 3 6 4 5 0 i v 4 1 mq 1f 1ef 6c 7 3 4 1 d 11 2 0 6 0
    nwz 19 j t 3p 2t 4 3 2 24 l 5 2 2 mu 16 2 d 7 27 fnl 6 d 4 sq p 7 p x2 27 2p z 5 z 39 a 2 e
    2 6 2 1 2 a 2 e 2 6 2 1 ck 0 3 2 2 15 2 8 xy 1e e 1e 2m l b l 26z 1r gv5 1r x o 3 o jzh 2c 2
    1y 2 1 3 0 3 1 3 3 2 b 2 0 2 6 2 1s 2 3 3 7 2 6 2 r 2 3 2 4 2 0 4 6 2 9f 3 o 2 o 2 u 2 o 2 u
    2 o 2 u 2 o 2 u 2 o 2 7 1f9 9 2 j 7 5 7a 1p 1oz 1v 1kd p 7 p 7 p"

/-- Characters that are passed over when it is asked whether a letter stands next to a cased one. -/
def caseIgnorable : CodeRanges :=
  .ofText "13 0 7 0 c 0 10 0 2 0 20 0 5 0 2 0 5 0 3 1 e0 5b 5 1 5 0 a 1 2 0 70 6 5s 0 6 0 1e 18 2 0 2 1
    2 1 2 0 19 0 c 5 b a 2 0 10 0 b k h 0 2u 7 2 9 2 3 y 0 2 0 v q 2k a 1n a 5 0 3 0 p n 18 2 19
    0 8 1 6 8 16 1l 1k 0 2 0 5 7 5 0 4 6 b 1 e 0 g 0 1n 0 5 3 9 0 l 1 r 0 3 1 1m 0 5 1 5 1 3 2 4
    0 v 1 4 0 c 1 1m 0 5 4 2 1 5 0 l 1 n 5 2 0 1n 0 3 0 2 3 9 0 8 1 c 1 v 0 1q 0 d 0 1f 0 4 0 1k
    0 2 2 6 2 2 3 8 1 c 1 u 0 1n 0 3 0 7 0 6 1 l 1 t 1 1m 1 5 3 9 0 l 1 u 0 21 0 8 2 2 0 2j 0 3
    6 c 8 2r 0 3 8 a 0 2 6 22 1 s 0 2 0 2 0 1k d 2 4 2 1 6 a 2 z a 0 2v 3 2 5 2 1 3 1 q 1 5 2 h
    3 e 0 3 1 7 0 g 0 2n 0 gx 2 qb 2 u 1 v 1 v 1 1t 1 2 6 9 0 3 a 4 0 6 0 1a 4 1g 0 1u 1 z 0 3b
    2 5 1 a 0 7 2 64 1 3 0 1n 0 2 6 2 0 2 0 3 7 7 9 3 0 14 0 9 19 3 b l 3 1d 0 2 4 2 0 6 0 15 8
    d 1 x 3 3 1 2 2 1l 0 2 1 4 0 2 2 1n 7 3 1 1t 5 2b 2 2 c 2 6 5 0 7 0 4 1 1f 1q e 0 z 2s ce 0
    2 2 c 2 e 2 e 2 e 1 d 4 9 1 b 0 3 0 3 4 1e 4 2 9 2 0 e 0 h c 1g w 2a4 1 36 2 3i 0 g 0 2p v
    1c 0 d2 0 11 3 4 4 6 0 2m 5 2m 2 lxz 0 yr 5 7j 0 2r 3 2 9 2 0 t 3 29 1 f x 27 0 o 2 2v 3 4 1
    9 0 4 0 5 0 q 1 6 0 48 1 r h e 0 13 7 q a 1b 2 1d 0 3 3 3 1 i 0 m 1 1v 5 3 1 3 1 d 0 9 0 10
    0 c 0 1g 0 2 2 3 1 6 1 2 0 s 0 f 1 6 1 2 0 2t 4 a 2 3e 0 3 0 5 0 fn5 0 44 g fy f 4 0 d f z 0
    3 0 4q 0 8 0 7 0 c 0 10 0 2 0 1c 0 1a 1 1w 0 m 2 ea 0 6b 0 46 4 sm 5 2 15 2 8 g7 2 2 1 6 3
    15 2 5 0 4m 1 fy 3 13 0 r 4 2 0 8s 1 p 0 1h 5 1z a 1e 3 3g 0 1j e 16 0 3 1 b 2 1e 3 3 1 3 0
    5 0 b 0 1f 2 11 4 2 7 1r 0 d 1 1h 8 b 3 3 0 2o 2 3 0 2 1 7 0 3 0 4e 0 4 7 m 1 1m 1 4 0 12 6
    4 4 1z 5 e 0 2 0 2 0 f 1 2e 7 3 2 2 0 o 0 2d 5 2 0 5 1 2 1 6n 3 7 1 2 1 s 1 2e 7 3 0 2 1 2z
    0 2 0 3 5 2 0 2u 0 2 0 3 3 2 4 78 8 2 1 75 1 2 0 5 0 41 3 3 1 5 0 x 9 15 5 3 3 9 0 a 5 3 2
    1b c 2 1 5j 0 2 2 2 0 5m 6 2 5 2 0 2b l 3 6 2 1 2 1 3f 5 4 0 2 1 2 6 2 0 21 1 4 0 2 0 1u 0
    7u 1 c 1 1h 4 6 0 2 0 o 0 446 g 7 e 8uh b 4 2 1xd 4 1o 6 a 3 e5 2 15 1 df 0 1s g 1t 1 2 1 e
    1 cn1 3 2 6 2 1 2hr 1 2 3 3ml 19 3 m f5 2 a f 3 6 v 3 45 2 1j0 1i 5 1d 9 0 f 0 n 4 2 e 11t 6
    2 g 3 6 2 1 2 4 6 1p y 0 4h d a9 0 1q 3 e4 4 73 1 6s 0 3 0 8 1 6 0 a 0 cx 6 32 7 240 4 gx6q
    0 v 2n 3l 6n"

/-- Characters with no shape of their own: controls, format characters, private and unassigned
    code points, and every blank but the space. -/
def unprintable : CodeRanges :=
  .ofText "0 v 2o x d 0 jv 1 7 3 8 0 2 0 l 0 b2 0 13 1 1f 1 4 0 1k 7 s 3 7 g n 0 5d 0 1d 1 1o 1 2u d 1o
    1 1e 1 g 0 t 1 2 0 c 4 x 6 24 0 4i 0 9 1 3 1 n 0 8 0 2 2 5 1 a 1 3 1 5 7 2 3 3 0 6 1 q 1 4 0
    7 3 3 1 n 0 8 0 3 0 3 0 3 1 2 0 6 3 3 1 4 2 2 6 5 0 2 6 i 9 4 0 a 0 4 0 n 0 8 0 3 0 6 1 b 0
    4 0 4 1 2 e 5 1 d 6 8 0 4 0 9 1 3 1 n 0 8 0 3 0 6 1 a 1 3 1 4 6 4 3 3 0 6 1 j 9 3 0 7 2 4 0
    5 2 3 0 2 0 3 2 3 2 4 2 d 3 6 2 4 0 5 1 2 5 2 d m 4 e 0 4 0 o 0 h 1 a 0 4 0 5 6 3 0 4 0 3 1
    5 1 b 6 n 0 4 0 o 0 b 0 6 1 a 0 4 0 5 6 3 4 4 0 5 1 b 0 4 b e 0 4 0 1g 0 4 0 7 3 h 1 r 0 4 0
    j 2 p 0 a 0 2 1 8 2 2 3 7 0 2 0 9 5 b 1 4 b 1n 3 u 10 3 0 2 0 6 0 p 0 2 0 o 1 6 0 2 0 8 0 b
    1 5 v 21 0 11 3 14 0 11 0 g 0 e 10 5j 0 2 4 2 1 ai 0 5 1 8 0 2 0 5 1 16 0 5 1 y 0 5 1 8 0 2
    0 5 1 g 0 1m 0 5 1 1w 1 x 2 r 5 2f 1 7 1 ht 0 t 2 2i 6 n 8 p 8 l b e 0 4 0 3 b 2n 1 b 5 b 5
    f 0 c 5 2i 6 18 4 1z 9 w 0 d 3 d 3 2 2 17 1 6 a 19 3 r 5 c 2 1r 1 1u 0 u 1 c 5 b 5 f 1 1b 1
    d j 26 0 4n 7 1p 2 g 2 1r 4 18 1 c 7 18 4 ev 1 7 1 13 1 7 1 9 0 2 0 2 0 2 0 w 1 1i 0 g 0 f 1
    7 0 k 1 4 0 a g p 7 1c g 3 1 s 0 e 2 z d y e 3x 3 ij l c k 1ed 1 an 4 1a 0 2 4 2 1 1l 6 3 d
    p 8 8 0 8 0 8 0 8 0 8 0 8 0 8 0 8 0 3j x r 0 2i b 5z p h 0 1s 0 2f 1 2w 4 18 0 2n 0 2f 8 1d
    0 mlq 2 1k 8 9p j 55 7 66 j 1p 2 b 5 1l 7 1z 7 d 5 39 a v 2 27 0 c 3 y 0 1k 8 f 1 b 1 2w n t
    9 7 1 7 1 7 8 8 0 8 0 1p 3 3j 1 b 5 8md b o 3 1e 6ir a7 1 2z 11 8 b 6 4 r 0 6 0 2 0 3 0 3 0
    i3 v 17 5 1g 0 k 0 5 3 6 0 3s 3 5b 2 7 1 7 1 7 1 4 2 8 0 8 c 3 1 d 0 r 0 k 0 3 0 g 1 f x 3g
    4 4 3 1a 2 2h 0 e 2 2 1a 1b 3l u 2 1e e t 3 11 8 v 4 18 4 v 0 12 3 f 15 4f 1 b 5 11 3 11 3
    15 7 1h a d 0 g 0 8 0 3 0 c 0 g 0 8 0 3 2 1h b 8o 8 n 9 9 n 7 0 17 0 a 1w 7 1 2 0 19 0 3 2 2
    1 o 0 21 7 a 1b k 0 3 4 y 2 s 4 s 11 1l 3 l 1 1f 0 3 4 9 0 4 0 u 1 4 3 b 6 a 6 1t v 14 3 d 8
    1j 2 u 1 s 4 r 6 5 b 8 27 22 1i 1g c 1g 6 1b 7 b 5 13 2 u 7 3 5r w 0 17 0 4 1 3 f 7 7 a w 1b
    7 17 l r 11 t j o 8 27 3 11 8 1r 0 6 c q 6 b 5 1i 0 j 7 14 8 2p 0 l a j 0 1c 1p 8 0 2 0 5 0
    g 0 c 5 1o 4 b 5 5 0 9 1 3 1 n 0 8 0 3 0 6 0 b 1 3 1 4 1 2 5 2 4 8 1 8 2 6 a b 0 2 1 2 0 13
    0 b 0 2 1 2 0 5 0 b 0 3 7 3 s 2l 0 6 t 21 7 b 4l 1j 1 13 x 1y a b 5 e i 1n 5 b 5 l r s 1 g 3
    o 54 1p 2r 2c b 9 1 2 1 9 0 3 0 v 0 3 1 d 8 b 1x 9 1 1b 1 c q 21 7 2c c 22 6 b 2d 9 2f z d b
    5 a 0 1a 0 f 9 u 2 x 1 n 0 f 20 8 0 3 0 19 2 2 0 3 0 a 7 b 5 7 0 3 0 12 0 3 0 7 6 b 5 19 3 b
    6t q 6 i 0 16 2 u 2c 2 e 1f c po 2t 34 0 6 a 5h 217 2s c tt f n 9 330 4 g8 5a0 1n 1c5 fu 6 w
    0 b 3 2a 0 b 5 v 1 7 9 1z 9 b 0 8 0 m 4 k bz 1n 5h 2k 4 q 1 q 17 24 3 1m 6 i 1r 6 a 8 8 5p3
    14 x 2o 38 6po 5 0 8 0 3 0 84 e 2 s 4 1 2 d 5 7 b1 1s3 30 4 e 2 a 6 b 1 5 31b 72 2 c5 5 o e
    i e 1b 1 o 8 39 1n 6v 9 14 1 23 7 35 k 1z 3d l b l b 2g 8 q 3q 2e 0 20 0 3 1 2 1 3 1 5 0 d 0
    2 0 8 0 1u 0 5 1 9 0 8 0 t 0 5 0 6 0 2 2 8 0 9h 1 85 1 jj e 6 0 g un w 5 7 5w 8 0 i 1 8 0 3
    0 6 4 1r w 2 33 1a 2 f 1 b 3 3 8v w g 1n 4 2 cv 17 5x 18 3 2 5b w 0 n 7 3 67 8 0 5 0 3 0 g 0
    5i 1 h 14 25 3 b 3 3 ls 1x 23 1q 5d 5 0 s 0 3 0 2 1 2 0 b 0 5 0 2 0 2 5 2 3 2 0 2 0 2 0 4 0
    3 0 2 1 2 0 2 0 2 0 2 0 2 0 3 0 2 1 5 0 8 0 5 0 5 0 2 0 b 0 i 4 4 0 6 0 i 1f 3 7h 19 3 2t b
    g 1 g 0 g 0 12 9 4v 1j u c 19 3 a 6 3 d 7 49 re 2 i 2 e 2 63 5 d 3 2 e d 3 1l 7 b 5 15 7 v 1
    d 3 3 d a 12 9l 7 f 1 e 2 c 2 1m 0 2 3 h 1 d 3 b 6 44 0 2w sk wyp v 3dr 1 4gf 1 5rm e hb 1wh
    f3 15t 3t8 4 6jv f62t 6p 47bj"

/-- Marks that are drawn on the character before them. -/
def graphemeExtend : CodeRanges :=
  .ofText "lc 33 7o 6 7c 18 2 0 2 1 2 1 2 0 21 a 1d k h 0 2u 6 3 5 3 1 2 3 10 0 v q 2k a 1n 8 a 0 p 3 2
    8 2 2 2 4 18 2 1o 8 17 n 2 v 1k 0 2 0 5 7 5 0 4 6 b 1 u 0 1n 0 2 0 3 3 9 0 a 0 b 1 r 0 3 1
    1m 0 5 1 5 1 3 2 4 0 v 1 4 0 c 1 1m 0 5 4 2 1 5 0 l 1 n 5 2 0 1n 0 2 1 2 3 9 0 8 2 b 1 v 0
    1o 0 2 0 d 0 a 0 15 0 4 0 1k 0 2 2 6 2 2 3 8 1 c 1 u 0 1n 0 3 1 2 0 4 2 2 3 8 1 c 1 t 1 1m 1
    2 0 3 3 9 0 a 0 b 1 u 0 21 0 5 0 3 2 2 0 9 0 2a 0 3 6 d 7 2r 0 3 8 c 6 22 1 s 0 2 0 2 0 1k d
    2 4 2 1 6 a 2 z a 0 2v 3 2 5 2 1 3 1 q 1 5 2 h 3 e 0 3 1 7 0 g 0 jk 2 qb 3 t 2 u 1 v 1 1t 1
    2 6 9 0 3 a a 0 1a 2 2 0 3a 1 z 0 3b 2 5 1 a 0 7 2 64 1 3 0 1n 0 2 6 2 0 2 0 3 7 7 9 3 0 1d
    19 3 b l 3 1d 9 5 2 13 8 d 1 x 3 3 5 1l 0 2 1 4 0 2 4 1l 7 3 1 49 2 2 c 2 6 5 0 7 0 4 1 5j
    1r el 0 5g w 2db 2 3y 0 2p v ff 5 2y 1 n9x 3 2 9 x 1 29 1 7l 0 4 0 5 0 q 1 6 0 48 1 r h e 0
    13 7 q a 2 0 19 2 1d 0 3 3 3 1 3 0 11 0 1w 5 3 1 3 1 d 0 9 0 1c 0 1g 0 2 2 3 1 6 1 2 0 17 1
    9 0 6n 0 3 0 5 0 fn5 0 ki f h f a7 1 gu 0 6b 0 46 4 1af 2 2 1 6 3 15 2 5 0 4m 1 fy 3 1u 4 8u
    1 26 5 1z a 1e 3 3g 0 1j e 16 0 3 1 b 2 1e 3 3 1 8 0 1q 2 11 4 2 7 1r 0 d 1 1h 8 2 0 9 3 3 0
    2o 2 3 3 7 0 3 0 4e 0 4 7 m 1 1m 1 2 0 2 0 d 0 a 0 f 6 4 4 1w 0 3 5 2 0 3 0 2 2 5 2 2 0 f 1
    2e 7 3 2 2 0 o 0 2a 0 3 5 2 0 3 0 2 1 2 1 6k 0 3 3 7 1 2 1 s 1 2e 7 3 0 2 1 2z 0 2 0 3 7 2u
    0 2 0 3 3 2 4 78 8 2 1 6u 0 b 3 5 0 41 3 3 1 5 0 x 9 15 5 3 3 9 0 a 5 3 2 1b c 2 1 5j 0 2 2
    2 0 5m 6 2 5 2 0 2b l 3 6 2 1 2 1 3f 5 4 0 2 1 2 6 2 0 21 1 4 0 2 0 9o 1 c 1 1h 4 6 2 o 0
    44m 0 7 e 8uh b 4 2 1xd 4 1o 6 t5 0 1s 3 2a 0 c 1 f58 1 3mq 19 3 m f3 4 4 5 9 7 3 6 v 3 45 2
    1j0 1i 5 1d 9 0 f 0 n 4 2 e 11t 6 2 g 3 6 2 1 2 4 2t 0 4h 6 ag 0 1q 3 e5 3 73 1 6s 0 3 0 8 1
    6 0 d7 6 32 6 gzbq 2n 3l 6n"

end Logbook.Text.Property
