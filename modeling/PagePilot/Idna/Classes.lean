import PagePilot.Idna.Compose
/-!
# PagePilot.Idna.Classes

Classes of characters that the rules for host names speak of: marks, directions of
writing, and how letters join.
-/

namespace PagePilot.Idna

/-- All marks. -/
def markLines : List String :=
  [ "lc.33 7o.6 7c.18 2 2.1 2.1 2 21.a 1d.k h 2u.6 3.5 3.1 2.3 10 v.q 2k.a 1n.8 a p.3 2.8 2.2",
    "2.4 18.2 1o.8 17.1l 1j.2 2.h 2.6 b.1 u.2 1l 2.f a b.1 r.5 1l.l v.1 4 c.2 1l 2.f l.1 n.9",
    "1l 2.p b.1 v 1o.f a 15.4 1k 2.o c.1 u.2 1l 2.o c.1 g.g 1k.1 2.f a b.1 u.2 1z.l j.1 1q",
    "3.6 d.7 2r 3.8 c.6 22.1 s 2 2 5.1 1e.j 2.1 6.1b a 2t.j o.3 5.2 2.2 3.6 4.3 e.b 2 b.3",
    "jk.2 qb.3 t.2 u.1 v.1 1v.t a 4o.1 z 3b.r 64.4 1m.16 1d.2c 1c.g 13.8 d.2 v.c 1l.d 1d.j",
    "49.2 2.k 5 7 3.2 5j.1r k1.w 2db.2 3y 2p.v ff.5 2y.1 n9x.3 2.9 x.1 29.1 7l 4 5 o.4 5 2c.1",
    "1f.h r.h e 13.7 q.c 19.3 1c.d 11 1w.d d 9.1 1a.2 1f 2.2 3.1 6.1 2 16.4 6.1 6l.7 2.1 fn5",
    "le.f r2 6b 46.4 1af.e 15.7 4m.1 fy.3 1u.4 8u.1 26.5 1z.a 1e.3 3f.2 1i.e 16 3.1 b.3 1a.a",
    "8 1q.2 11.d h.1 19 d.2 1d.d 9.3 2.1 2l.b 7 3 4e.b m.3 1k.1 2.f a b.i 1w.o 2 f.1 2b.h o",
    "2a.j 6k.h s.1 2b.g 2z.c 2u.e 75.e 6u.e 2 2.1 3y.f 4 t.9 15.6 2.3 9 a.a 1b.f 5j.7 5k.g",
    "2b.10 3f.k 2 1v.d 9o.3 a.1 2 1d.e o 44m 7.e 8uh.h 1xd.4 1o.6 t5 2.1t 2a.d f58.1 3mq.1y",
    "f3.4 4.l 3.6 v.3 45.2 1j0.1i 5.1d 9 f n.k 11t.3z 4h.6 ag 1q.3 e5.3 73.1 6s 3 8.1 6 d7.6",
    "32.6" ]

/-- The characters that are not written from left to right as a matter of course. -/
def directionLines : List String :=
  [ "0.8B 1.4W 1.dB 1.4W 1.1O 1.2T 1.4O 1S 1C 1S 1.1C 1.9E 1C 1.11O r.3O 1B yO 1.3T 1.8O 2.1T",
    "5.xO wO ci.1O 8.dO 3.rO 2.gO 1.33M 6O 3lO 3x.6M 75.4O 1T 2.18M 1R 1M 1R 1.1M 1R 1.1M 1R",
    "1M 9.10R i.1O 1A 1.1T 1A 1C 1A 1.1O 1.aM 1.1bA 1.kM 1.9N 1T 1.1N 1.2A 1M 1.2sA 1.6M 2O",
    "1.5M 1.1A 1.1M 1O 1.3M 1.1A 1.9E 1.mA 1M 1.tA 1.qM 3.2gA 1.aM 1A f.16R 1.8M 1.1R 1.3O 1R",
    "3M 1.nR 1.3M 1R 1.8M 1R 1.2M 1R 1.4M 3.14R 1.2M 3R 2.1bA 8.8M 1.15A 1.1kM 1kM 2M 5.7M 5M",
    "4.6M b.1M uM 1nM 5.3M 9M l.1M f.1T 8T 3.4M 1mM 5.gM v.1M 4M c.1M 1mM 5.7M 5M l.1M eT",
    "9.7M 1nM 3M 2.3M 9.9M c.1M vM 1qM dM 12.5O 1T 1O 6M 4M 1kM 2.2M 6.gM c.1M l.6O 3M 1nM",
    "g.1M l.1M t.1M 1m.1M 5.3M 9M l.1M uM 21M 8.4M 2jM 3.6M 5T 8.7M 2rM 3.8M c.6M 22.1M sM 2M",
    "2M 1.3O 1g.dM 2.4M 2.1M 6.1bM aM 2v.3M 2.5M 2.1M 3.1M q.1M 5.2M h.3M eM 3.1M 7M gM jk.2M",
    "1d.9O 2vO ij.1O 3a.2M u.1M v.1M v.1M 1w.6M 9M 3.aM 8T 2M j.qO 3f.1M zM 3b.2M 5.1M aM",
    "7.2M 5.5O 49.xO o.1M 3M 1nM 2.8M 2M 3.7M 7.cM 1d.2bM 1dM 2.4M 2M 6M 15.8M d.1M x.3M 3.1M",
    "2.2M 1lM 2.1M 4M 2.2M 1n.7M 3.1M 49.2M 2.cM 2.6M 5M 7M 4.1M 5j.1rM el.1B 3.nO 9.2T 3.eO",
    "1C 1.pO 1u.wT g.wM k.11O 5T c.jO 1p.3rO 1S 1T 1.81O 1y.pO 2.40O q.h7O 2.9eO 75.idO 2.2wO",
    "6e.5O 5.2M 8.6O 3kM 2p.vM 1.ecO 4.oO a.3M 3O 7O 6.2O 2i.1M 6O 2jO 5h.zO 5i5.1rO h3l.1iO",
    "93.2O 2o.3M 1O 1.9M 1.1O v.1M 29.1M f.xO 2vO 3eM 4M 5M q.1M 2.3O 1M c.1T 1n.3O 25.1M",
    "r.hM eM 13.7M q.aM 1b.2M 1dM 3.3M 3.1M 14M 1w.5M 3.1M 3.1M dM 9M 1cM 1gM 2.2M 3.1M 6.1M",
    "2M 17.1M 9M 38.1O 3eM 3M 5M fn5M 44.wA a4.hO 1t.1qA 1.1cO x.fM m.1O 19A i6O 1r.24O 4.gO",
    "2lM 6bM 1.qE 3f.4M w6.7vR 4O 1.68R 1.eM 1.11R 3.7M 1.4kR 1.1M 5.22R 4.6O 1.cfR 1.zA 1.3M",
    "9.9N 7.fR q.4M 1.xR 5t.uN 2.15R 2.1M 1.4R h.mA y.5M 1.13R 9.lA 1.aM 1.8A n.hR 1.3M 1.34R",
    "bM 1j.eM c.jO bM 3.1M b.2M 1e.3M 3.1M 8M 1q.2M 11.4M 2.7M 1rM d.1M 1h.8M b.3M 3M 2o.2M",
    "3M 2.1M 7M 3M 4eM 4.7M m.1M 1m.1M 4M 12.eM 1z.5M eM 2M 2M f.1M 2e.7M 3.2M 2M oM 2d.5M 2M",
    "5.1M 2.1M 6n.3M 7.1M 2.1M s.1M 2e.7M 3M 2.1M w.cO 1rM 2M 3.5M 2M 2u.2M 3.3M 2.4M 78.8M",
    "2.1M 75.1M 2M 5M 41.7M 5M x.5M 3.1M 15.5M 3.3M 9M a.5M 3.2M 1b.cM 2.1M 5jM 2.2M 2M 5m.dM",
    "2d.lM 3.6M 2.1M 2.1M 3f.kM 2M 21.1M 4M 2M 9o.1M c.1M 1h.4M 6M 2M oM 3f.7O 1.3T 1.gO 40fM",
    "7.eM 8uh.bM 4.2M 1xd.4M 1o.6M t5M 1s.3M 28O 2M f5l.1M 3mq.1yM f5.2M i.7M 3.6M v.3M",
    "1o.2gO 1.2M 1O 57.2eO 1be.1iM 5.1dM 9M fM n.kM 11t.3zM 4h.6M agM 1q.3M gT dp.3M 73.1M",
    "6sM 3M 8.1M 6M 7f.5rR 1.6M 24.xR 1.6M 1.kR lu.5oA c3.fzO 1q.2O 1qO 4z.vrO 5.4aO 5.8mO",
    "27.9fO d.14O 8.19O 2.6O 9.dO 5.8O 8.62O" ]

/-- The characters that join with their neighbours, or let others join. -/
def joiningLines : List String :=
  [ "lc.33T 7o.6T 7c.18T 2T 2.1T 2.1T 2T 21.aT 6D 2.3R 1D 1R 1D 1R 1.4D 1.3R 1.cD 1C 1.6D 1R",
    "1.1D 1.kT f.1D 1T 1.2R 6.eD 1.hR 1.11D 1R 1.1D 1.8R 1D 1R 1D 1R 1.1D 1.1R 2R 1.6T 3.5T",
    "3.1T 2.3T 1.1R b.2D 3D hR 1T 1.2D 1.4R 1.3D 1R 1.8D 1R 1D 1R 1D 1R 1.1D 1R 1.qT 3R 1.aD",
    "1.2R 1.eD 1.1R 1.3D 1R 1D 1.1R 1.2D 1.1R 1.5D 13.aT q.wD 1.8T 7C 3T p.3T 2.8T 2.2T 2.4T",
    "jR 1.4D 1.1R 1D 1R 1.9D 1R 1D 1.2R 1.2T 5D 2.3D 2R 1D 1.pR 1.2C 1D 3.4D 1R 1D 8.8T 1.9D",
    "1.2R 2R 1.1D 1.1R 1.5D 1R 1.eD 2.1kT 1kT 2T 5.7T 5T 4.6T b.1T uT 1nT 5.3T 9T l.1T r.4T",
    "1mT 5.gT v.1T 4T c.1T 1mT 5.7T 5T l.1T n.7T 1nT 3T 2.3T 9.9T c.1T vT 1qT dT 1fT 4T 1kT",
    "2.2T 6.gT c.1T uT 1nT 3T 7T 6.1T l.1T t.1T 1m.1T 5.3T 9T l.1T uT 21T 8.4T 2jT 3.6T d.7T",
    "2rT 3.8T c.6T 22.1T sT 2T 2T 1k.dT 2.4T 2.1T 6.1bT aT 2v.3T 2.5T 2.1T 3.1T q.1T 5.2T",
    "h.3T eT 3.1T 7T gT jk.2T qb.2T u.1T v.1T v.1T 1w.6T 9T 3.aT aT 16D 3C m.2gD d.1T 1.xD 1T",
    "1D 3a.2T 5.1T aT 7.2T 64.1T 3T 1nT 2.8T 2T 3.7T 7.cT 1d.2bT 1dT 2.4T 2T 6T 15.8T d.1T",
    "x.3T 3.1T 2.2T 1lT 2.1T 4T 2.2T 1n.7T 3.1T 49.2T 2.cT 2.6T 5T 7T 4.1T 5j.1rT emC 5f.wT",
    "2db.2T 3yT 2p.vT ff.3T 30.1T n9x.3T 2.9T x.1T 29.1T 7lT 4T 5T q.1T 6T k.1dD 1L 2a.1T",
    "r.hT eT 13.7T q.aT 1b.2T 1dT 3.3T 3.1T 14T 1w.5T 3.1T 3.1T dT 9T 1cT 1gT 2.2T 3.1T 6.1T",
    "2T 17.1T 9T 6nT 3T 5T fn5T le.fT r2T 6bT 46.4T 1af.eT 15.7T 3l.4D 1R 2R 2.1R 3L 1.4R",
    "1.3D 1L 1.4D 1R 1.2D 1R 3R 1.1T 5.3D 1R 41D 1R 1D 1.2R 1.2D 1R 1.1D 1R 1D 1.1R 1D 1R",
    "o.3R 1.1D 9eL 1.wD 1R 1D 1.3T 1u.4T 8u.1T mR 1.1D 2.1D 1f.5T 1d.2D 1R 1.gD 2.aT 1.2D 1R",
    "s.3D 1.1R 1.bD 1.3T 17D 2.1D 1.2R 2D 1.1R 1.1D 1R 1.1D 2D 1.1R 1D 5R 1D 1L 1iT 1j.eT 16T",
    "3.1T b.2T 1e.3T 3.1T 8T 1q.2T 11.4T 2.7T 1rT d.1T 1h.8T b.3T 3T 2o.2T 3T 2.1T 7T 3T 4eT",
    "4.7T m.1T 1m.1T 4T 12.eT 1z.5T eT 2T 2T f.1T 2e.7T 3.2T 2T oT 2d.5T 2T 5.1T 2.1T 6n.3T",
    "7.1T 2.1T s.1T 2e.7T 3T 2.1T 2zT 2T 3.5T 2T 2uT 2T 3.3T 2.4T 78.8T 2.1T 75.1T 2T 5T",
    "41.7T 5T x.9T 15.5T 3.3T 9T a.5T 3.2T 1b.cT 2.1T 5jT 2.2T 2T 5m.dT 2T 2b.lT 3.6T 2.1T",
    "2.1T 3f.kT 2T 21.1T 4T 2T 9o.1T c.1T 1h.4T 6T 2T oT 44mT 7.eT 8uh.bT 4.2T 1xd.4T 1o.6T",
    "t5T 1s.3T 2aT f5l.1T 3mq.1yT f5.2T i.7T 3.6T v.3T 45.2T 1j0.1iT 5.1dT 9T fT n.kT 11t.3zT",
    "4h.6T agT 1q.3T e5.3T 73.1T 6sT 3T 8.1T 6T d7.6T 24.xD 1.7T" ]

/-- All marks. -/
def markRanges : List Range :=
  ranges markLines

/-- The directions. -/
def directionRanges : List Range :=
  ranges directionLines

/-- The ways of joining. -/
def joiningRanges : List Range :=
  ranges joiningLines

/-- Whether a character is a mark. -/
def isMark (c : Char) : Bool :=
  (tagOf? markRanges c).isSome

/-- How a character goes with the direction of writing. -/
inductive Direction
  | leftToRight
  | rightToLeft
  | arabicLetter
  | arabicNumber
  | europeanNumber
  | numberSeparator
  | commonSeparator
  | numberTerminator
  | neutral
  | boundaryNeutral
  | mark
  | blank
deriving Repr, DecidableEq

/-- The direction of a character. -/
def directionOf (c : Char) : Direction :=
  match tagOf? directionRanges c with
  | some ['R'] => .rightToLeft
  | some ['A'] => .arabicLetter
  | some ['N'] => .arabicNumber
  | some ['E'] => .europeanNumber
  | some ['S'] => .numberSeparator
  | some ['C'] => .commonSeparator
  | some ['T'] => .numberTerminator
  | some ['O'] => .neutral
  | some ['B'] => .boundaryNeutral
  | some ['M'] => .mark
  | some ['W'] => .blank
  | _ => .leftToRight

/-- How a character joins with its neighbours. -/
inductive Joining
  | none
  | left
  | right
  | both
  | causing
  /-- Neighbours join as if it were not there. -/
  | transparent
deriving Repr, DecidableEq

/-- How a character joins. -/
def joiningOf (c : Char) : Joining :=
  match tagOf? joiningRanges c with
  | some ['L'] => .left
  | some ['R'] => .right
  | some ['D'] => .both
  | some ['C'] => .causing
  | some ['T'] => .transparent
  | _ => .none

/-- Whether a mark takes the vowel from the letter in front. -/
def isVirama (c : Char) : Bool :=
  combiningClass c = 9

end PagePilot.Idna
