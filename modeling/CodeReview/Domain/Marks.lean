import CodeReview.Domain.Rows
set_option autoImplicit false

/-!
Combining marks. Marks after a letter are put in the order of their classes, and a letter and a
mark that have a character of their own are replaced by it, so that equal texts are written alike.
-/
namespace CodeReview.Domain.Marks

/-- The spans of the characters that combine with the one before them. -/
def markRows : List String := [
  "lc+33 w3+6 13l+18 14v 14x+1 150+1 153+1 174+a 18r+k 19s 1cm+6 1cv+5 1d3+1 1d6+3 1e9 1f4+q",
  "1ie+a 1kb+8 1kt 1li+3 1ln+8 1lx+2 1m1+4 1nd+2 1p3+8 1qi+n 1r7+w 1tm+2 1tq+h 1u9+6 1uq+1",
  "1vl+2 1x8 1xa+6 1xj+1 1xn+2 1xz 1ya+1 1z2 1z5+2 20s 20u+4 213+1 217+2 21d 228+1 22d 22p+2",
  "24c 24e+7 24n+2 24r+2 25e+1 262+5 269+2 27w 27y+6 287+1 28b+2 28j+4 28y+1 29u 2bi+4 2bq+2",
  "2bu+3 2c7 2dc+4 2f0 2f2+6 2fa+2 2fe+3 2fp+1 2g2+1 2gx+2 2ik 2im+6 2iu+2 2iy+3 2j9+1 2jm+1",
  "2k3 2kg+3 2m3+1 2m6+6 2me+2 2mi+3 2mv 2n6+1 2o1+2 2q2 2q7+5 2qe 2qg+7 2r6+1 2sx 2t0+6 2tj+7",
  "2wh 2wk+8 2x4+6 2zc+1 305 307 309 30e+1 31t+j 32e+1 32l+a 32x+z 346 36z+j 386+3 38e+2 38i+2",
  "38n+6 38x+3 39e+b 39r 3a2+3 3tp+2 4k2+3 4ky+2 4lu+1 4mq+1 4ok+v 4pp 4qz+2 4r3 4ud+1 4vd",
  "4yo+b 4z4+b 55j+4 579+9 57k+s 58f 59s+1a 5b4+b 5c0+4 5dg+g 5ez+8 5fk+2 5gh+c 5ie+d 5k4+j",
  "5ow+2 5p0+k 5pp 5pw 5pz+2 5vk+1r 6hc+w 8vj+2 8zj 928+v 9ii+5 9ll+1 wvj+3 wvo+9 wwu+1 wz4+1",
  "x6q x6u x6z x7n+4 x7w xa8+1 xbo+h xcw+h xdr xeu+7 xfr+c xhc+3 xir+d xk5 xm1+d xmr xn0+1",
  "xob+2 xps xpu+2 xpz+1 xq6+1 xq9 xrf+4 xrp+1 xyb+7 xyk+1 1dlq 1e68+f 1e74+f 1eyl 1f4w 1f92+4",
  "1gjl+2 1gjp+1 1gjw+3 1gl4+2 1glb 1gpx+1 1h5w+3 1h7t+4 1hgr+1 1hiy+5 1hl2+a 1hmq+3 1hq8+2",
  "1hrs+e 1htc 1htf+1 1htr+3 1hv4+a 1hvm 1hxc+2 1hyf+d 1hz9+1 1i0j 1i0w+2 1i2b+d 1i2x+3 1i32+1",
  "1i5o+b 1i66 1i69 1ian+b 1ibk+3 1id7+1 1ida+6 1idj+1 1idn+2 1idz 1iea+1 1iee+6 1ieo+4 1igo+8",
  "1igy 1ih1 1ih3+3 1ih8+4 1ihe 1iht+1 1ik5+h 1ila 1ink+j 1iun+6 1iuw+8 1ivw+1 1iy8+g 1j1n+c",
  "1j4t+e 1jcc+e 1jjk+5 1jjr+1 1jjv+3 1jk0 1jk2+1 1jo1+6 1joa+6 1jok 1jpd+9 1jqr+6 1jqz+3 1jrb",
  "1jrl+a 1jt6+f 1jz4+7 1k4v+7 1k54+7 1k7m+l 1k89+d 1kc1+5 1kca 1kcc+1 1kcf+6 1kcn 1kei+4",
  "1keo+1 1ker+4 1koj+3 1kow+1 1koz 1kqc+6 1kqm+4 1kre 1ow0 1ow7+e 1xr2+h 1zow+4 1zqo+6 20jz",
  "20k1+1i 20lr+3 20o4 20og+1 2ftp+1 2jgg+19 2jhs+m 2jxh+4 2jxp+5 2jy3+7 2jyd+6 2jze+3 2k3m+2",
  "2lmo+1i 2lob+1d 2lpx 2lqc 2lqz+4 2lr5+e 2mtc+6 2mtk+g 2mu3+6 2mub+1 2mue+4 2mxb 2n1s+6 2nce",
  "2ne4+3 2nsc+3 2nzi+1 2o6b 2o6e 2o6m+1 2o6t 2ok0+6 2on8+6 jo5c+6n"]

/-- Each row is a class and the spans of its characters. -/
def classRows : List String := [
  "1 ms+4 5p0 5pe+6 6he+1 6hk+2 6hx+1 6i2+1 1gl5 1zow+4 2ftq 2jxj+2",
  "6 20og+1",
  "7 1to 1x8 20s 24c 27w 2f0 2ik 37b 5dg 5ie 5kn xir 1hve 1i0j 1i2y 1i5y 1iax 1id7+1 1ikm 1io3",
  "7 1iv4 1j1z 1jcq 1jk3 1kci 2one",
  "8 9ll+1",
  "9 1u5 1xp 219 24t 28d 2bx 2fh 2j1 2m3+1 2ml 2q2 2t6 2wq 32c 37d+1 4k4+1 4l0 4pe 57k 5dw",
  "9 5gq+1 5iq+1 8zj x6u x7w xc4 xg3 xj4 xrq xyl 1glb 1hs6 1htc 1htr 1hvd 1hyr+1 1i2o 1i5x",
  "9 1iay 1idp 1iha+2 1iki 1io2 1iv3 1iyn 1j1y 1j57 1jcp 1jjx+1 1jog 1jqs 1jrb 1jtl 1k5b",
  "9 1kck+1 1kev 1kqp+1 1xrj",
  "a 14g",
  "b 14h",
  "c 14i",
  "d 14j",
  "e 14k",
  "f 14l",
  "g 14m",
  "h 14n",
  "i 14o 153",
  "j 14p+1",
  "k 14r",
  "l 14s",
  "m 14t",
  "n 14v",
  "o 14x",
  "p 14y",
  "q 1dlq",
  "r 18r 1rk",
  "s 18s 1rl",
  "t 18t 1rm",
  "u 17c 18u",
  "v 17d 18v",
  "w 17e 18w",
  "x 18x",
  "y 18y",
  "z 19s",
  "10 1e9",
  "2c 2fp",
  "2j 2fq",
  "2v 2t4+1",
  "2z 2tk+3",
  "3a 2wo+1",
  "3e 2x4+3",
  "3l 31t",
  "3m 31u 322+3 328",
  "3o 31w",
  "5m m9+1 mf+1 5w0",
  "5y 5vy",
  "60 m3 309 2jxh+1 2jxq+4",
  "62 5x6 9ii",
  "64 ly+3 m4+4 mb+3 mh+a mx+3 nb+2 nh+1 nn+3 nt+1 13l 13q 13v 142+5 14a 151 191+1 198 19b 1cz",
  "64 1d6 1d9 1f5 1f8 1fb+2 1ff+1 1fi 1fm 1fo 1fq 1fs 1ki 1kt 1nd+2 1p5+2 1qn+4 1r7 1ra 1rd",
  "64 1rh+2 1rq 1rt+1 1ua 2zc+1 305 307 346 39p 4zf 55k 58f 59x+5 5a5 5a7+1 5ab+1 5ai 5b1 5ba",
  "64 5f0 5p1+4 5p8+3 5pp 5vm 5vu 5vz 5x5 5x9 5xb 6i0 6i4+3 xez+2 xpw 1e7b+6 1eyl 1f4w 1gjx",
  "64 1gl6 1gpy 1hiy+1 1hj1+2 1hl2+1 1hl7 1hl9+3 1hmr 1hmt 2jy3+7 2jyi+1 2nse 2nzj 2ok0+6",
  "66 13u 14d 4zd 9il",
  "68 9im+1",
  "6a 2jxp",
  "6c 14e 4vd 5x3+1 9ij",
  "6e lc+k n1+7 na ne+2 nk+2 nr nv o3+c w3+4 13m+3 13r+2 13w+5 148+1 14b+1 14f 150 174+7 18z+1",
  "6e 193+4 199+1 1cm+6 1cv+3 1d0 1d3+1 1d7+1 1f4 1f6+1 1f9+1 1fe 1fh 1fj+2 1fn 1fp 1fr 1ft+1",
  "6e 1kb+6 1kj 1li+3 1ln+8 1lx+2 1m1+4 1p3+1 1p8+3 1qi+4 1qs+d 1r8+1 1rb+1 1re+2 1rn+2 1rr+1",
  "6e 1rv+4 1u9 1ub+1 1z2 32a+1 32e+1 3tp+2 4pp 4ze 55j 585+7 59s+4 5a3+1 5a9+1 5ad+4 5aj+h",
  "6e 5b2 5b4+5 5bb+3 5ez 5f1+6 5ow+2 5p6+1 5pc 5pw 5q0+1 5vk+1 5vn+6 5vv+1 5w1+10 5x7 5xa",
  "6e 6hc+1 6hg+3 6hn+1 6ht 6hz 6i1 6i8 8vj+2 928+v wvj wvo+9 wwu+1 wz4+1 xcw+h xps xpu+1",
  "6e xpz+1 xq6+1 xq9 1e74+6 1e7i+1 1f92+4 1gjz 1gl4 1gpx 1h5w+3 1h7t+4 1hgr+1 1hl4+2 1hl8",
  "6e 1hmq 1hms 1hxc+2 1iee+6 1ieo+4 1ila 1zqo+6 2jyd+4 2jze+3 2k3m+2 2mtc+6 2mtk+g 2mu3+6",
  "6e 2mub+1 2mue+4 2mxb 2n1s+6 2nce 2ne4+3 2nsf 2nzi 2o6b 2o6e 2o6m+1 2o6t 2on8+5",
  "6g lx m2 ns 5x2 9ik 2nsc+1",
  "6h nw nz o2 5x8",
  "6i nx+1 o0+1 5bf 5vx",
  "6o n9"]

/-- Each row is a character, and then characters before it with what the two compose to. -/
def pairRows : List String := [
  "lc 1t>5c 1x>5k 21>5o 27>5u 2d>61 2p>68 2t>6g 2x>6k 33>6q 39>6x 64>d7 70>d8 26>e0 32>e1",
  "lc t1>sg t4>st tx>uo u0>v1 7m>5xw 7n>5xx 98>5zk 99>5zl 2f>60w 3b>60x 5e>61y 6a>61z 76>628",
  "lc 77>629 5m>62o 6i>62p 5w>636 6s>637 bk>63g bl>63h bz>63u c0>63v 2h>642 3d>643 64g>64i",
  "lc 64h>64j 64o>64q 64p>64r 64w>64y 64x>64z 654>656 655>657 65c>65e 65d>65f 65k>65m 65l>65n",
  "lc 65s>65u 65t>65v 660>662 661>663 668>66a 669>66b 66g>66i 66h>66j 66o>66q 66p>66r 66x>66z",
  "lc 674>676 675>677 67c>67e 67d>67f q9>67k qd>67m qf>67o qh>67q qn>67s qt>67u qx>67w pd>69m",
  "lc ph>6a0 pj>6a2 69r>6a5 qy>6aa pl>6ai 6bi>6al qz>6aq px>6ay 4o>6b1 pr>6bc q1>6be",
  "ld 1t>5d 1x>5l 21>5p 27>5v 2d>62 2h>65 2p>69 2t>6h 2x>6l 33>6r 39>6y 3d>71 1v>7a 2r>7b",
  "ld 24>8p 30>8q 26>8z 32>90 2a>9g 36>9h 2b>9m 37>9n 2i>ah 3e>ai 64>d3 70>d4 1z>dw 2v>dx",
  "ld 5h>e2 6d>e3 5i>e4 6e>e5 60>e6 6w>e7 4o>p1 pd>p2 ph>p4 pj>p5 pl>p6 pr>p8 px>pa q1>pb",
  "ld qy>pc q9>q4 qd>q5 qf>q6 qh>q7 qz>q8 qn>r0 qt>r1 qx>r2 r6>r7 sz>sj t6>ss tv>ur u2>v0",
  "ld 5j>5xk 6f>5xl 7m>5xy 7n>5xz 5r>5ym 6n>5yn 23>5yo 2z>5yp 25>5z2 31>5z3 5x>5zg 6t>5zh",
  "ld 98>5zm 99>5zn 28>5zo 34>5zp a0>60o a1>60p 2f>60y 3b>60z 5e>61w 6a>61x 76>626 77>627",
  "ld 5m>62m 6i>62n 5w>634 6s>635 bk>63e bl>63f bz>63s c0>63t 64g>64k 64h>64l 64o>64s 64p>64t",
  "ld 64w>650 64x>651 654>658 655>659 65c>65g 65d>65h 65k>65o 65l>65p 65s>65w 65t>65x 660>664",
  "ld 661>665 668>66c 669>66d 66g>66k 66h>66l 66o>66s 66p>66t 66x>671 674>678 675>679 67c>67g",
  "ld 67d>67h 69r>6a6 6bi>6am",
  "le 1t>5e 1x>5m 21>5q 27>5w 2d>63 2p>6a 2t>6i 2x>6m 33>6s 39>6z 1v>7c 2r>7d 1z>7w 2v>7x",
  "le 20>84 2w>85 22>8k 2y>8l 2b>9o 37>9p 2f>ac 3b>ad 2h>ae 3d>af 2i>61c 3e>61d 61s>624",
  "le 61t>625 62g>62u 62h>62v 630>63c 631>63d",
  "lf 1t>5f 26>5t 27>5x 2p>6b 32>6p 33>6t 21>88 2x>89 2d>a0 39>a1 2e>60s 3a>60t 5e>622 6a>623",
  "lf 76>62c 77>62d 1x>62k 2t>62l 5m>62s 6i>62t 5w>63a 6s>63b bk>63k bl>63l bz>63y c0>63z",
  "lf 2h>648 3d>649",
  "lg 1t>74 2p>75 1x>7m 2t>7n 21>8a 2x>8b 27>98 33>99 2d>a2 39>a3 64>d1 70>d2 5g>da 6c>db",
  "lg fa>dc fb>dd 5i>de 6e>df dm>do dn>dp 5y>fe 6u>ff 5x>fg 6t>fh fi>fk fj>fl 2h>fm 3d>fn",
  "lg t4>yq u0>yr tf>z2 ub>z3 1z>5y8 2v>5y9 5yu>5yw 5yv>5yx 5zu>5zw 5zv>5zx q9>69d pd>69l",
  "lg qh>6a9 pl>6ah qt>6ap px>6ax",
  "li 1t>76 2p>77 1x>7o 2t>7p 1z>7y 2v>7z 21>8c 2x>8d 27>9a 33>9b 2d>a4 39>a5 tf>su t4>t5",
  "li u0>u1 ub>v2 t2>xt ty>xu sw>y8 ts>y9 t1>ye tx>yf fc>5y4 fd>5y5 61s>62e 61t>62f q9>69c",
  "li pd>69k qh>6a8 pl>6ag qt>6ao px>6aw",
  "lj 1v>7e 2r>7f 1x>7q 2t>7r 1z>80 2v>81 21>8g 2i>aj 3e>ak 1t>fa 2p>fb 27>fi 33>fj 1u>5xe",
  "lj 2q>5xf 1w>5xm 2s>5xn 1y>5y6 2u>5y7 20>5ya 2w>5yb 25>5z4 31>5z5 26>5z8 32>5z9 28>5zq",
  "lj 34>5zr 2a>5zs 36>5zt 2b>600 37>601 9m>604 9n>605 9s>606 9t>607 602>608 603>609 2c>60a",
  "lj 38>60b 2f>612 3b>613 2g>616 3c>617 2h>61a 3d>61b an>61n 1fpu>1fpl 1fq2>1fqc",
  "lk 1t>5g 1x>5n 21>5r 27>5y 2d>64 2p>6c 2t>6j 2x>6n 33>6u 39>70 3d>73 2h>ag pl>q2 px>q3",
  "lk qh>qy qt>qz r6>r8 t1>sh sm>sn tx>up uu>uv sw>ya ts>yb yg>yi yh>yj t2>yk ty>yl t3>ym",
  "lk tz>yn t4>ys u0>yt ta>yu u6>yv yw>yy yx>yz tp>z0 ul>z1 tf>z4 ub>z5 tj>z8 uf>z9 tn>zc",
  "lk uj>zd 20>5ye 2w>5yf 5x>5zi 6t>5zj a2>60q a3>60r 2f>610 3b>611 2g>618 3c>619 38>61j",
  "ll 1t>61u 2p>61v 5e>620 6a>621 76>62a 77>62b 1x>62i 2t>62j 5m>62q 6i>62r 21>62w 2x>62x",
  "ll 27>632 33>633 5w>638 6s>639 bk>63i bl>63j 2d>63q 39>63r bz>63w c0>63x 2h>646 3d>647",
  "lm 1t>5h 2p>6d 2d>a6 39>a7 3b>61k 3d>61l",
  "ln 27>9c 33>9d 2d>a8 39>a9 tf>z6 ub>z7",
  "lo 1v>7g 2r>7h 1w>7i 2s>7j 1x>7u 2t>7v 24>8t 30>8u 26>93 32>94 2a>9k 36>9l 2b>9s 37>9t",
  "lo 2c>9w 38>9x 2i>al 3e>am 1t>ct 2p>cu 21>cv 2x>cw 27>cx 33>cy 2d>cz 39>d0 64>d5 70>d6",
  "lo 1z>di 2v>dj 23>dk 2z>dl c7>dq ia>dr 2y>ds 20>f2 2w>f3",
  "lr 1t>e8 2p>e9 1x>ec 2t>ed 21>eg 2x>eh 27>ek 33>el 2a>eo 36>ep 2d>es 39>et vo>vq vp>vr",
  "lt 1t>ea 2p>eb 1x>ee 2t>ef 21>ei 2x>ej 27>em 33>en 2a>eq 36>er 2d>eu 39>ev",
  "lv q9>64g pd>64o qd>64w ph>654 qf>65c pj>65k qh>65s pl>660 qn>668 pr>66g qt>66o qx>674",
  "lv q1>67c qp>6as",
  "lw q9>64h pd>64p qd>64x ph>655 qf>65d pj>65l qh>65t pl>661 qn>669 pr>66h qt>66p px>66x",
  "lw qx>675 q1>67d qp>6at pt>6b0",
  "m3 27>bk 33>bl 2d>bz 39>c0",
  "mb 1u>5xg 2q>5xh 1w>5xo 2s>5xp 20>5yc 2w>5yd 23>5yq 2z>5yr 24>5yu 30>5yv 25>5z6 31>5z7",
  "mb 26>5za 32>5zb 2a>5zu 36>5zv 2b>602 37>603 2c>60c 38>60d 2e>60u 3a>60v 2f>614 3b>615",
  "mb 2i>61e 3e>61f 1t>61s 2p>61t 1x>62g 2t>62h 21>62y 2x>62z 27>630 33>631 bk>63m bl>63n",
  "mb 2d>63o 39>63p bz>640 c0>641 2h>644 3d>645",
  "mc 2d>60i 39>60j",
  "md 1t>5xc 2p>5xd",
  "me 2b>ew 37>ex 2c>ey 38>ez",
  "mf 1v>5j 2r>6f 1z>82 2v>83 23>8m 2z>8n 24>8r 30>8s 26>91 32>92 2a>9i 36>9j 2b>9q 37>9r",
  "mf 2c>9u 38>9v 1x>fc 2t>fd 1w>5xs 2s>5xt 20>5yg 2w>5yh",
  "mg 1t>78 2p>79 1x>7s 2t>7t 21>8e 2x>8f 2d>aa 39>ab 27>dm 33>dn",
  "ml 1w>5xu 2s>5xv 1x>5y0 2t>5y1 24>5z0 30>5z1 26>5ze 32>5zf 2c>60g 38>60h 2d>60m 39>60n",
  "mm 20>5yi 2w>5yj",
  "mo 1x>5y2 2t>5y3 21>5yk 2x>5yl 2d>60k 39>60l",
  "mp 1u>5xi 2q>5xj 1w>5xq 2s>5xr 23>5ys 2z>5yt 24>5yy 30>5yz 26>5zc 32>5zd 2a>5zy 36>5zz",
  "mp 2c>60e 38>60f 2i>61g 3e>61h 2w>61i",
  "mw 6mo>6my 6mq>6mz 6ms>6ni 6og>6od 6ok>6oe 6oi>6of 6pv>6pw 6q0>6q1 6q3>6q4 6qr>6qs 6qt>6qu",
  "mw 6rg>6rl 6rn>6ro 6rp>6rr 6rs>6rt 1p>6sg 6sh>6si 6rx>6st 1o>6su 1q>6sv 6sk>6sw 6sl>6sx",
  "mw 6sy>6t0 6sz>6t1 6t2>6t4 6t3>6t5 6t6>6tc 6t7>6td 6te>6tg 6tf>6th 6ti>6tk 6tj>6tl 6ua>6uk",
  "mw 6ug>6ul 6uh>6um 6uj>6un 6t8>6w0 6t9>6w1 6tt>6w2 6tu>6w3 6uq>6wa 6ur>6wb 6us>6wc 6ut>6wd",
  "n6 64g>64m 64h>64n 64o>64u 64p>64v 65c>65i 65d>65j 65k>65q 65l>65r 65s>65y 65t>65z 660>666",
  "n6 661>667 66o>66u 66p>66v 66x>673 674>67a 675>67b 67c>67i 67d>67j q9>69i 4o>69t qf>69y",
  "n6 69r>6a7 qh>6ae qy>6af 6bi>6an qt>6au qz>6av qx>6ba",
  "n9 64g>680 64h>681 64i>682 64j>683 64k>684 64l>685 64m>686 64n>687 64o>688 64p>689 64q>68a",
  "n9 64r>68b 64s>68c 64t>68d 64u>68e 64v>68f 65c>68g 65d>68h 65e>68i 65f>68j 65g>68k 65h>68l",
  "n9 65i>68m 65j>68n 65k>68o 65l>68p 65m>68q 65n>68r 65o>68s 65p>68t 65q>68u 65r>68v 674>68w",
  "n9 675>68x 676>68y 677>68z 678>690 679>691 67a>692 67b>693 67c>694 67d>695 67e>696 67f>697",
  "n9 67g>698 67h>699 67i>69a 67j>69b 67k>69e q9>69f q4>69g 69i>69j pd>69o 67o>69u qf>69v",
  "n9 q6>69w 69y>69z pj>6a4 67w>6b6 qx>6b7 r2>6b8 6ba>6bb q1>6bg",
  "18z 17r>17m",
  "190 17r>17n 18o>17o 18q>17q 1cl>1c0 1c1>1c2 1ci>1cj",
  "191 17r>17p",
  "1to 1t4>1t5 1tc>1td 1tf>1tg",
  "1xa 1xj>1xn",
  "1xz 1xj>1xo",
  "27y 287>28b",
  "28m 287>288",
  "28n 287>28c",
  "2bi 2bq>2bu 2br>2bv",
  "2c7 2aa>2ac 2bq>2bw",
  "2fq 2fa>2fc",
  "2iq 2iu>2iy",
  "2j9 2in>2io 2iu>2iv 2iy>2iz",
  "2ja 2iu>2iw",
  "2m6 2me>2mi 2mf>2mj",
  "2mv 2me>2mk",
  "2q2 2qh>2qi 2qk>2ql",
  "2q7 2qh>2qk",
  "2qn 2qh>2qm",
  "372 36t>36u",
  "5dh 5c5>5c6 5c7>5c8 5c9>5ca 5cb>5cc 5cd>5ce 5ch>5ci 5dm>5dn 5do>5dp 5dq>5ds 5dr>5dt 5du>5dv",
  "9ll 9jf>9jg 9jh>9ji 9jj>9jk 9jl>9jm 9jn>9jo 9jp>9jq 9jr>9js 9jt>9ju 9jv>9jw 9jx>9jy 9jz>9k0",
  "9ll 9k1>9k2 9k4>9k5 9k6>9k7 9k8>9k9 9kf>9kg 9ki>9kj 9kl>9km 9ko>9kp 9kr>9ks 9ja>9lg 9lp>9lq",
  "9ll 9m3>9m4 9m5>9m6 9m7>9m8 9m9>9ma 9mb>9mc 9md>9me 9mf>9mg 9mh>9mi 9mj>9mk 9ml>9mm 9mn>9mo",
  "9ll 9mp>9mq 9ms>9mt 9mu>9mv 9mw>9mx 9n3>9n4 9n6>9n7 9n9>9na 9nc>9nd 9nf>9ng 9ly>9o4 9nz>9o7",
  "9ll 9o0>9o8 9o1>9o9 9o2>9oa 9od>9oe",
  "9lm 9kf>9kh 9ki>9kk 9kl>9kn 9ko>9kq 9kr>9kt 9n3>9n5 9n6>9n8 9n9>9nb 9nc>9ne 9nf>9nh",
  "1hve 1huh>1hui 1huj>1huk 1hut>1huz",
  "1hyf 1hyp>1hym 1hyq>1hyn",
  "1ida 1idj>1idn",
  "1idz 1idj>1ido",
  "1igo 1igy>1ih3",
  "1igr 1if8>1if9",
  "1igy 1iff>1ifi 1igy>1ih1",
  "1ih5 1if6>1if7 1ifk>1ifl 1igy>1ih4",
  "1ink 1int>1inw",
  "1inu 1int>1inv",
  "1inx 1int>1iny",
  "1iun 1iuw>1iuy 1iux>1iuz",
  "1jjk 1jjp>1jjs",
  "1xr2 1xr2>1xr5",
  "1xr3 1xr2>1xr7 1xrd>1xr8 1xr5>1xra 1xr6>1xrb",
  "1xr4 1xr2>1xr9 1xr5>1xrc",
  "1xrd 1xr2>1xr6",
  "206f 206f>206g 206b>206h 206h>206i"]

structure Pair where
  first : Nat
  second : Nat
  composite : Nat
  deriving DecidableEq, Repr

structure Table where
  classes : List (Nat × List Rows.Span)
  pairs : List Pair

def readClassRow (row : String) : Nat × List Rows.Span :=
  match Rows.words row with
  | k :: spans => (Rows.number k, spans.map Rows.Span.read)
  | [] => (0, [])

def readPair (second : List Char) (word : List Char) : Pair :=
  let (first, composite) := Rows.around '>' word
  ⟨Rows.number first, Rows.number second, Rows.number composite⟩

def readPairRow (row : String) : List Pair :=
  match Rows.words row with
  | second :: words => words.map (readPair second)
  | [] => []

def table : Table :=
  ⟨classRows.map readClassRow, pairRows.flatMap readPairRow⟩

def isMark (c : Char) : Bool :=
  Rows.within (Rows.spans markRows) c

def Table.classOf (t : Table) (c : Char) : Nat :=
  ((t.classes.find? fun k => Rows.within k.2 c).map Prod.fst).getD 0

/-- The syllable of a Korean initial and vowel, or of a syllable without a final and a final. -/
def syllable? (c d : Char) : Option Char :=
  let initial := c.toNat - 0x1100
  let vowel := d.toNat - 0x1161
  let last := d.toNat - 0x11a7
  if 0x1100 ≤ c.toNat ∧ initial < 19 ∧ 0x1161 ≤ d.toNat ∧ vowel < 21 then
    some (Char.ofNat (0xac00 + (initial * 21 + vowel) * 28))
  else if 0xac00 ≤ c.toNat ∧ c.toNat < 0xac00 + 19 * 21 * 28 ∧ (c.toNat - 0xac00) % 28 = 0
      ∧ 0x11a7 < d.toNat ∧ last < 28 then
    some (Char.ofNat (c.toNat + last))
  else none

def Table.composite? (t : Table) (c d : Char) : Option Char :=
  match t.pairs.find? fun p => p.first = c.toNat ∧ p.second = d.toNat with
  | some p => some (Char.ofNat p.composite)
  | none => syllable? c d

/-- The parts of a composite, taken apart at most as often as the given number. -/
def Table.parts (t : Table) : Nat → Char → List Char
  | 0, c => [c]
  | n + 1, c =>
    match t.pairs.find? fun p => p.composite = c.toNat with
    | some p => t.parts n (Char.ofNat p.first) ++ [Char.ofNat p.second]
    | none => [c]

/-- Puts a mark in front of the marks of greater classes. -/
def Table.insertMark (t : Table) (c : Char) : List Char → List Char
  | [] => [c]
  | d :: ds =>
    if t.classOf c ≠ 0 ∧ t.classOf d ≠ 0 ∧ t.classOf c ≤ t.classOf d then c :: d :: ds
    else if t.classOf c ≠ 0 ∧ t.classOf d ≠ 0 then d :: t.insertMark c ds
    else c :: d :: ds

/-- Orders the marks between letters by class, equal ones as they came. -/
def Table.order (t : Table) : List Char → List Char
  | [] => []
  | c :: cs => t.insertMark c (t.order cs)

/-- Composes a letter with the marks after it. The marks that stayed stand in reverse order. -/
def Table.compose (t : Table) (letter : Char) : List Char → List Char → List Char
  | marks, [] => letter :: marks.reverse
  | marks, c :: cs =>
    let free := marks.all fun m => t.classOf m < t.classOf c
    match if free then t.composite? letter c else none with
    | some d => t.compose d marks cs
    | none =>
      if t.classOf c = 0 then letter :: (marks.reverse ++ t.compose c [] cs)
      else t.compose letter (c :: marks) cs

def composed (cs : List Char) : List Char :=
  let t := table
  match t.order (cs.flatMap (t.parts 4)) with
  | [] => []
  | c :: cs => t.compose c [] cs

end CodeReview.Domain.Marks
